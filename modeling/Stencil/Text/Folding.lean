/-!
# Folding

The form of characters in which names are compared: small letters for capitals,
and ordinary characters for their variants in width, position or style. Some
characters become several.

The forms are listed in stretches of neighbouring characters, with bars between
them.

## Main definitions

* `folded`: The form of a character in which names are compared.
-/

namespace Stencil

/-- The forms of characters outside ASCII from a first one on. -/
def foldings : List (Nat × String) := [
  (0xA0, " "),
  (0xA8, " \u0308|©|a"),
  (0xAF, " \u0304|°|±|2|3| \u0301|μ|¶|·| \u0327|1|o|»|1⁄4|1⁄2|3⁄4|¿|à|á|â|ã|ä|å|æ|ç|è|é|ê|ë|ì|í"),
  (0xCE, "î|ï|ð|ñ|ò|ó|ô|õ|ö|×|ø|ù|ú|û|ü|ý|þ"),
  (0x100, "ā|ā|ă|ă|ą|ą|ć|ć|ĉ|ĉ|ċ|ċ|č|č|ď|ď|đ|đ|ē|ē|ĕ|ĕ|ė|ė|ę|ę|ě|ě|ĝ|ĝ|ğ|ğ|ġ|ġ|ģ|ģ|ĥ|ĥ|ħ|ħ|ĩ|ĩ|ī"),
  (0x12B, "ī|ĭ|ĭ|į|į|i\u0307|ı|ij|ij|ĵ|ĵ|ķ|ķ|ĸ|ĺ|ĺ|ļ|ļ|ľ|ľ|l·|l·|ł|ł|ń|ń|ņ|ņ|ň|ň|\u02bcn|ŋ|ŋ|ō|ō"),
  (0x14E, "ŏ|ŏ|ő|ő|œ|œ|ŕ|ŕ|ŗ|ŗ|ř|ř|ś|ś|ŝ|ŝ|ş|ş|š|š|ţ|ţ|ť|ť|ŧ|ŧ|ũ|ũ|ū|ū|ŭ|ŭ|ů|ů|ű|ű|ų|ų|ŵ|ŵ|ŷ|ŷ|ÿ"),
  (0x179, "ź|ź|ż|ż|ž|ž|s|ƀ|ɓ|ƃ|ƃ|ƅ|ƅ|ɔ|ƈ|ƈ|ɖ|ɗ|ƌ|ƌ|ƍ|ǝ|ə|ɛ|ƒ|ƒ|ɠ|ɣ|ƕ|ɩ|ɨ|ƙ"),
  (0x19C, "ɯ|ɲ|ƞ|ɵ|ơ|ơ|ƣ|ƣ|ƥ|ƥ|ʀ|ƨ|ƨ|ʃ|ƪ|ƫ|ƭ|ƭ|ʈ|ư|ư|ʊ|ʋ|ƴ|ƴ|ƶ|ƶ|ʒ|ƹ"),
  (0x1BC, "ƽ"),
  (0x1C4, "dž|dž|dž|lj|lj|lj|nj|nj|nj|ǎ|ǎ|ǐ|ǐ|ǒ|ǒ|ǔ|ǔ|ǖ|ǖ|ǘ|ǘ|ǚ|ǚ|ǜ|ǜ|ǝ|ǟ|ǟ|ǡ|ǡ|ǣ|ǣ|ǥ|ǥ|ǧ|ǧ|ǩ|ǩ"),
  (0x1EA, "ǫ|ǫ|ǭ|ǭ|ǯ|ǯ|ǰ|dz|dz|dz|ǵ|ǵ|ƕ|ƿ|ǹ|ǹ|ǻ|ǻ|ǽ|ǽ|ǿ|ǿ|ȁ|ȁ|ȃ|ȃ|ȅ|ȅ|ȇ|ȇ|ȉ|ȉ|ȋ|ȋ|ȍ|ȍ|ȏ|ȏ|ȑ|ȑ|ȓ"),
  (0x213, "ȓ|ȕ|ȕ|ȗ|ȗ|ș|ș|ț|ț|ȝ|ȝ|ȟ|ȟ|ƞ|ȡ|ȣ|ȣ|ȥ|ȥ|ȧ|ȧ|ȩ|ȩ|ȫ|ȫ|ȭ|ȭ|ȯ|ȯ|ȱ|ȱ|ȳ"),
  (0x23A, "ⱥ|ȼ|ȼ|ƚ|ⱦ|ȿ|ɀ|ɂ|ɂ|ƀ|ʉ|ʌ|ɇ|ɇ|ɉ|ɉ|ɋ|ɋ|ɍ|ɍ|ɏ"),
  (0x2B0, "h|ɦ|j|r|ɹ|ɻ|ʁ|w|y"),
  (0x2D8, " \u0306| \u0307| \u030a| \u0328| \u0303| \u030b|\u02de|\u02df|ɣ|l|s|x|ʕ"),
  (0x340, "\u0300|\u0301|\u0342|\u0313|\u0308\u0301|ι"),
  (0x370, "ͱ|ͱ|ͳ|ͳ|\u02b9|\u0375|ͷ"),
  (0x37A, " ι"),
  (0x37E, ";|ϳ"),
  (0x384, " \u0301| \u0308\u0301|ά|·|έ|ή|ί|\u038b|ό|\u038d|ύ|ώ|ΐ|α|β|γ|δ|ε|ζ|η|θ|ι|κ|λ|μ|ν|ξ|ο|π"),
  (0x3A1, "ρ|\u03a2|σ|τ|υ|φ|χ|ψ|ω|ϊ|ϋ"),
  (0x3CF, "ϗ|β|θ|υ|ύ|ϋ|φ|π|ϗ|ϙ|ϙ|ϛ|ϛ|ϝ|ϝ|ϟ|ϟ|ϡ|ϡ|ϣ|ϣ|ϥ|ϥ|ϧ|ϧ|ϩ|ϩ|ϫ|ϫ|ϭ|ϭ|ϯ|ϯ|κ|ρ|σ|ϳ|θ|ε|϶|ϸ|ϸ|σ"),
  (0x3FA, "ϻ|ϻ|ϼ|ͻ|ͼ|ͽ|ѐ|ё|ђ|ѓ|є|ѕ|і|ї|ј|љ|њ|ћ|ќ|ѝ|ў|џ|а|б|в|г|д|е|ж|з|и|й|к|л|м|н|о|п|р|с|т|у|ф"),
  (0x425, "х|ц|ч|ш|щ|ъ|ы|ь|э|ю|я"),
  (0x460, "ѡ|ѡ|ѣ|ѣ|ѥ|ѥ|ѧ|ѧ|ѩ|ѩ|ѫ|ѫ|ѭ|ѭ|ѯ|ѯ|ѱ|ѱ|ѳ|ѳ|ѵ|ѵ|ѷ|ѷ|ѹ|ѹ|ѻ|ѻ|ѽ|ѽ|ѿ|ѿ|ҁ"),
  (0x48A, "ҋ|ҋ|ҍ|ҍ|ҏ|ҏ|ґ|ґ|ғ|ғ|ҕ|ҕ|җ|җ|ҙ|ҙ|қ|қ|ҝ|ҝ|ҟ|ҟ|ҡ|ҡ|ң|ң|ҥ|ҥ|ҧ|ҧ|ҩ|ҩ|ҫ|ҫ|ҭ|ҭ|ү|ү|ұ|ұ|ҳ|ҳ|ҵ"),
  (0x4B5, "ҵ|ҷ|ҷ|ҹ|ҹ|һ|һ|ҽ|ҽ|ҿ|ҿ|Ӏ|ӂ|ӂ|ӄ|ӄ|ӆ|ӆ|ӈ|ӈ|ӊ|ӊ|ӌ|ӌ|ӎ|ӎ|ӏ|ӑ|ӑ|ӓ|ӓ|ӕ|ӕ|ӗ|ӗ|ә|ә|ӛ|ӛ|ӝ|ӝ|ӟ|ӟ"),
  (0x4E0, "ӡ|ӡ|ӣ|ӣ|ӥ|ӥ|ӧ|ӧ|ө|ө|ӫ|ӫ|ӭ|ӭ|ӯ|ӯ|ӱ|ӱ|ӳ|ӳ|ӵ|ӵ|ӷ|ӷ|ӹ|ӹ|ӻ|ӻ|ӽ|ӽ|ӿ|ӿ|ԁ|ԁ|ԃ|ԃ|ԅ|ԅ|ԇ|ԇ|ԉ|ԉ|ԋ"),
  (0x50B, "ԋ|ԍ|ԍ|ԏ|ԏ|ԑ|ԑ|ԓ|ԓ|ԕ|ԕ|ԗ|ԗ|ԙ|ԙ|ԛ|ԛ|ԝ|ԝ|ԟ|ԟ|ԡ|ԡ|ԣ|ԣ|ԥ|ԥ|ԧ|ԧ|ԩ|ԩ|ԫ|ԫ|ԭ|ԭ|ԯ|ԯ|\u0530|ա|բ"),
  (0x533, "գ|դ|ե|զ|է|ը|թ|ժ|ի|լ|խ|ծ|կ|հ|ձ|ղ|ճ|մ|յ|ն|շ|ո|չ|պ|ջ|ռ|ս|վ|տ|ր|ց|ւ|փ|ք|օ|ֆ"),
  (0x587, "եւ"),
  (0x675, "\u0627\u0674|\u0648\u0674|\u06c7\u0674|\u064a\u0674"),
  (0x958, "क\u093c|ख\u093c|ग\u093c|ज\u093c|ड\u093c|ढ\u093c|फ\u093c|य\u093c"),
  (0x9DC, "ড\u09bc|ঢ\u09bc|\u09de|য\u09bc"),
  (0xA33, "ਲ\u0a3c|\u0a34|ਵ|ਸ\u0a3c"),
  (0xA59, "ਖ\u0a3c|ਗ\u0a3c|ਜ\u0a3c|ੜ|\u0a5d|ਫ\u0a3c"),
  (0xB5C, "ଡ\u0b3c|ଢ\u0b3c"),
  (0xE33, "\u0e4dา"),
  (0xEB3, "\u0ecdາ"),
  (0xEDC, "ຫນ|ຫມ"),
  (0xF0C, "་"),
  (0xF43, "ག\u0fb7"),
  (0xF4D, "ཌ\u0fb7"),
  (0xF52, "ད\u0fb7"),
  (0xF57, "བ\u0fb7"),
  (0xF5C, "ཛ\u0fb7"),
  (0xF69, "ཀ\u0fb5"),
  (0xF73, "\u0f71\u0f72|\u0f74|\u0f71\u0f74|\u0fb2\u0f80|\u0fb2\u0f71\u0f80|\u0fb3\u0f80"),
  (0xF79, "\u0fb3\u0f71\u0f80"),
  (0xF81, "\u0f71\u0f80"),
  (0xF93, "\u0f92\u0fb7"),
  (0xF9D, "\u0f9c\u0fb7"),
  (0xFA2, "\u0fa1\u0fb7"),
  (0xFA7, "\u0fa6\u0fb7"),
  (0xFAC, "\u0fab\u0fb7"),
  (0xFB9, "\u0f90\u0fb5"),
  (0x10C7, "ⴧ"),
  (0x10CD, "ⴭ"),
  (0x10FC, "ნ"),
  (0x13F8, "Ᏸ|Ᏹ|Ᏺ|Ᏻ|Ᏼ|Ᏽ"),
  (0x1C80, "в|д|о|с|т|т|ъ|ѣ|ꙋ"),
  (0x1C90, "ა|ბ|გ|დ|ე|ვ|ზ|თ|ი|კ|ლ|მ|ნ|ო|პ|ჟ|რ|ს|ტ|უ|ფ|ქ|ღ|ყ|შ|ჩ|ც|ძ|წ|ჭ|ხ|ჯ|ჰ|ჱ|ჲ|ჳ|ჴ|ჵ|ჶ|ჷ|ჸ|ჹ"),
  (0x1CBA, "ჺ|\u1cbb|\u1cbc|ჽ|ჾ|ჿ"),
  (0x1D2C, "a|æ|b|\u1d2f|d|e|ǝ|g|h|i|j|k|l|m|n|\u1d3b|o|ȣ|p|r|t|u|w|a|ɐ|ɑ|ᴂ|b|d|e|ə|ɛ|ɜ|g|\u1d4e"),
  (0x1D4F, "k|m|ŋ|o|ɔ|ᴖ|ᴗ|p|t|u|ᴝ|ɯ|v|ᴥ|β|γ|δ|φ|χ|i|r|u|v|β|γ|ρ|φ|χ"),
  (0x1D78, "н"),
  (0x1D9B, "ɒ|c|ɕ|ð|ɜ|f|ɟ|ɡ|ɥ|ɨ|ɩ|ɪ|ᵻ|ʝ|ɭ|ᶅ|ʟ|ɱ|ɰ|ɲ|ɳ|ɴ|ɵ|ɸ|ʂ|ʃ|ƫ|ʉ|ʊ|ᴜ|ʋ|ʌ|z|ʐ|ʑ|ʒ|θ"),
  (0x1E00, "ḁ|ḁ|ḃ|ḃ|ḅ|ḅ|ḇ|ḇ|ḉ|ḉ|ḋ|ḋ|ḍ|ḍ|ḏ|ḏ|ḑ|ḑ|ḓ|ḓ|ḕ|ḕ|ḗ|ḗ|ḙ|ḙ|ḛ|ḛ|ḝ|ḝ|ḟ|ḟ|ḡ|ḡ|ḣ|ḣ|ḥ|ḥ|ḧ|ḧ|ḩ|ḩ"),
  (0x1E2A, "ḫ|ḫ|ḭ|ḭ|ḯ|ḯ|ḱ|ḱ|ḳ|ḳ|ḵ|ḵ|ḷ|ḷ|ḹ|ḹ|ḻ|ḻ|ḽ|ḽ|ḿ|ḿ|ṁ|ṁ|ṃ|ṃ|ṅ|ṅ|ṇ|ṇ|ṉ|ṉ|ṋ|ṋ|ṍ|ṍ|ṏ|ṏ|ṑ|ṑ|ṓ|ṓ"),
  (0x1E54, "ṕ|ṕ|ṗ|ṗ|ṙ|ṙ|ṛ|ṛ|ṝ|ṝ|ṟ|ṟ|ṡ|ṡ|ṣ|ṣ|ṥ|ṥ|ṧ|ṧ|ṩ|ṩ|ṫ|ṫ|ṭ|ṭ|ṯ|ṯ|ṱ|ṱ|ṳ|ṳ|ṵ|ṵ|ṷ|ṷ|ṹ|ṹ|ṻ|ṻ|ṽ|ṽ"),
  (0x1E7E, "ṿ|ṿ|ẁ|ẁ|ẃ|ẃ|ẅ|ẅ|ẇ|ẇ|ẉ|ẉ|ẋ|ẋ|ẍ|ẍ|ẏ|ẏ|ẑ|ẑ|ẓ|ẓ|ẕ"),
  (0x1E9A, "a\u02be|ṡ|ẜ|ẝ|ß|ẟ|ạ|ạ|ả|ả|ấ|ấ|ầ|ầ|ẩ|ẩ|ẫ|ẫ|ậ|ậ|ắ|ắ|ằ|ằ|ẳ|ẳ|ẵ|ẵ|ặ|ặ|ẹ|ẹ|ẻ|ẻ|ẽ|ẽ|ế|ế|ề"),
  (0x1EC1, "ề|ể|ể|ễ|ễ|ệ|ệ|ỉ|ỉ|ị|ị|ọ|ọ|ỏ|ỏ|ố|ố|ồ|ồ|ổ|ổ|ỗ|ỗ|ộ|ộ|ớ|ớ|ờ|ờ|ở|ở|ỡ|ỡ|ợ|ợ|ụ|ụ|ủ|ủ|ứ|ứ|ừ"),
  (0x1EEB, "ừ|ử|ử|ữ|ữ|ự|ự|ỳ|ỳ|ỵ|ỵ|ỷ|ỷ|ỹ|ỹ|ỻ|ỻ|ỽ|ỽ|ỿ"),
  (0x1F08, "ἀ|ἁ|ἂ|ἃ|ἄ|ἅ|ἆ|ἇ"),
  (0x1F18, "ἐ|ἑ|ἒ|ἓ|ἔ|ἕ"),
  (0x1F28, "ἠ|ἡ|ἢ|ἣ|ἤ|ἥ|ἦ|ἧ"),
  (0x1F38, "ἰ|ἱ|ἲ|ἳ|ἴ|ἵ|ἶ|ἷ"),
  (0x1F48, "ὀ|ὁ|ὂ|ὃ|ὄ|ὅ"),
  (0x1F59, "ὑ|\u1f5a|ὓ|\u1f5c|ὕ|\u1f5e|ὗ"),
  (0x1F68, "ὠ|ὡ|ὢ|ὣ|ὤ|ὥ|ὦ|ὧ|ὰ|ά|ὲ|έ|ὴ|ή|ὶ|ί|ὸ|ό|ὺ|ύ|ὼ|ώ|\u1f7e|\u1f7f|ἀι|ἁι|ἂι|ἃι|ἄι|ἅι|ἆι|ἇι|ἀι"),
  (0x1F89, "ἁι|ἂι|ἃι|ἄι|ἅι|ἆι|ἇι|ἠι|ἡι|ἢι|ἣι|ἤι|ἥι|ἦι|ἧι|ἠι|ἡι|ἢι|ἣι|ἤι|ἥι|ἦι|ἧι|ὠι|ὡι|ὢι|ὣι|ὤι"),
  (0x1FA5, "ὥι|ὦι|ὧι|ὠι|ὡι|ὢι|ὣι|ὤι|ὥι|ὦι|ὧι|ᾰ|ᾱ|ὰι|αι|άι|\u1fb5|ᾶ|ᾶι|ᾰ|ᾱ|ὰ|ά|αι| \u0313|ι"),
  (0x1FBF, " \u0313| \u0342| \u0308\u0342|ὴι|ηι|ήι|\u1fc5|ῆ|ῆι|ὲ|έ|ὴ|ή|ηι| \u0313\u0300"),
  (0x1FCE, " \u0313\u0301| \u0313\u0342"),
  (0x1FD3, "ΐ"),
  (0x1FD8, "ῐ|ῑ|ὶ|ί|\u1fdc| \u0314\u0300| \u0314\u0301| \u0314\u0342"),
  (0x1FE3, "ΰ"),
  (0x1FE8, "ῠ|ῡ|ὺ|ύ|ῥ| \u0308\u0300| \u0308\u0301|\x60|\u1ff0|\u1ff1|ὼι|ωι|ώι|\u1ff5|ῶ|ῶι|ὸ|ό|ὼ"),
  (0x1FFB, "ώ|ωι| \u0301| \u0314|\u1fff| | | | | | | | | | | "),
  (0x2011, "‐"),
  (0x2017, " \u0333"),
  (0x2024, ".|..|..."),
  (0x202F, " "),
  (0x2033, "′′|′′′|‵|‵‵|‵‵‵"),
  (0x203C, "!!|‽| \u0305"),
  (0x2047, "??|?!|!?"),
  (0x2057, "′′′′"),
  (0x205F, " "),
  (0x2070, "0|i|\u2072|\u2073|4|5|6|7|8|9|+|−|=|(|)|n|0|1|2|3|4|5|6|7|8|9|+|−|=|(|)|\u208f|a|e|o"),
  (0x2093, "x|ə|h|k|l|m|n|p|s|t"),
  (0x20A8, "rs"),
  (0x2100, "a/c|a/s|c|°c|℄|c/o|c/u|ɛ|℈|°f|g|h|h|h|h|ħ|i|i|l|l|℔|n|no|℗|℘|p|q|r|r|r|℞|℟|sm|tel|tm"),
  (0x2123, "℣|z|℥|ω|℧|z|℩|k|å|b|c|℮|e|e|f|Ⅎ|m|o|\u05d0|\u05d1|\u05d2|\u05d3|i|℺|fax|π|γ|γ|π|∑"),
  (0x2145, "d|d|e|i|j"),
  (0x2150, "1⁄7|1⁄9|1⁄10|1⁄3|2⁄3|1⁄5|2⁄5|3⁄5|4⁄5|1⁄6|5⁄6|1⁄8|3⁄8|5⁄8|7⁄8|1⁄|i|ii|iii|iv|v|vi|vii"),
  (0x2167, "viii|ix|x|xi|xii|l|c|d|m|i|ii|iii|iv|v|vi|vii|viii|ix|x|xi|xii|l|c|d|m"),
  (0x2189, "0⁄3"),
  (0x222C, "∫∫|∫∫∫|∮|∮∮|∮∮∮"),
  (0x2329, "〈|〉"),
  (0x2460, "1|2|3|4|5|6|7|8|9|10|11|12|13|14|15|16|17|18|19|20|(1)|(2)|(3)|(4)|(5)|(6)|(7)|(8)"),
  (0x247C, "(9)|(10)|(11)|(12)|(13)|(14)|(15)|(16)|(17)|(18)|(19)|(20)|1.|2.|3.|4.|5.|6.|7.|8."),
  (0x2490, "9.|10.|11.|12.|13.|14.|15.|16.|17.|18.|19.|20.|(a)|(b)|(c)|(d)|(e)|(f)|(g)|(h)|(i)"),
  (0x24A5, "(j)|(k)|(l)|(m)|(n)|(o)|(p)|(q)|(r)|(s)|(t)|(u)|(v)|(w)|(x)|(y)|(z)|a|b|c|d|e|f|g|h"),
  (0x24BE, "i|j|k|l|m|n|o|p|q|r|s|t|u|v|w|x|y|z|a|b|c|d|e|f|g|h|i|j|k|l|m|n|o|p|q|r|s|t|u|v|w|x"),
  (0x24E8, "y|z|0"),
  (0x2A0C, "∫∫∫∫"),
  (0x2A74, "::=|==|==="),
  (0x2ADC, "⫝\u0338"),
  (0x2C00, "ⰰ|ⰱ|ⰲ|ⰳ|ⰴ|ⰵ|ⰶ|ⰷ|ⰸ|ⰹ|ⰺ|ⰻ|ⰼ|ⰽ|ⰾ|ⰿ|ⱀ|ⱁ|ⱂ|ⱃ|ⱄ|ⱅ|ⱆ|ⱇ|ⱈ|ⱉ|ⱊ|ⱋ|ⱌ|ⱍ|ⱎ|ⱏ|ⱐ|ⱑ|ⱒ|ⱓ|ⱔ|ⱕ|ⱖ|ⱗ|ⱘ|ⱙ"),
  (0x2C2A, "ⱚ|ⱛ|ⱜ|ⱝ|ⱞ|ⱟ"),
  (0x2C60, "ⱡ|ⱡ|ɫ|ᵽ|ɽ|ⱥ|ⱦ|ⱨ|ⱨ|ⱪ|ⱪ|ⱬ|ⱬ|ɑ|ɱ|ɐ|ɒ|ⱱ|ⱳ|ⱳ|ⱴ|ⱶ"),
  (0x2C7C, "j|v|ȿ|ɀ|ⲁ|ⲁ|ⲃ|ⲃ|ⲅ|ⲅ|ⲇ|ⲇ|ⲉ|ⲉ|ⲋ|ⲋ|ⲍ|ⲍ|ⲏ|ⲏ|ⲑ|ⲑ|ⲓ|ⲓ|ⲕ|ⲕ|ⲗ|ⲗ|ⲙ|ⲙ|ⲛ|ⲛ|ⲝ|ⲝ|ⲟ|ⲟ|ⲡ|ⲡ|ⲣ|ⲣ|ⲥ|ⲥ"),
  (0x2CA6, "ⲧ|ⲧ|ⲩ|ⲩ|ⲫ|ⲫ|ⲭ|ⲭ|ⲯ|ⲯ|ⲱ|ⲱ|ⲳ|ⲳ|ⲵ|ⲵ|ⲷ|ⲷ|ⲹ|ⲹ|ⲻ|ⲻ|ⲽ|ⲽ|ⲿ|ⲿ|ⳁ|ⳁ|ⳃ|ⳃ|ⳅ|ⳅ|ⳇ|ⳇ|ⳉ|ⳉ|ⳋ|ⳋ|ⳍ|ⳍ|ⳏ|ⳏ"),
  (0x2CD0, "ⳑ|ⳑ|ⳓ|ⳓ|ⳕ|ⳕ|ⳗ|ⳗ|ⳙ|ⳙ|ⳛ|ⳛ|ⳝ|ⳝ|ⳟ|ⳟ|ⳡ|ⳡ|ⳣ"),
  (0x2CEB, "ⳬ|ⳬ|ⳮ"),
  (0x2CF2, "ⳳ"),
  (0x2D6F, "ⵡ"),
  (0x2E9F, "母"),
  (0x2EF3, "龟"),
  (0x2F00, "一|丨|丶|丿|乙|亅|二|亠|人|儿|入|八|冂|冖|冫|几|凵|刀|力|勹|匕|匚|匸|十|卜|卩|厂|厶|又|口|囗|土|士|夂|夊|夕|大|女|子|宀|寸|小"),
  (0x2F2A, "尢|尸|屮|山|巛|工|己|巾|干|幺|广|廴|廾|弋|弓|彐|彡|彳|心|戈|戶|手|支|攴|文|斗|斤|方|无|日|曰|月|木|欠|止|歹|殳|毋|比|毛|氏|气"),
  (0x2F54, "水|火|爪|父|爻|爿|片|牙|牛|犬|玄|玉|瓜|瓦|甘|生|用|田|疋|疒|癶|白|皮|皿|目|矛|矢|石|示|禸|禾|穴|立|竹|米|糸|缶|网|羊|羽|老|而"),
  (0x2F7E, "耒|耳|聿|肉|臣|自|至|臼|舌|舛|舟|艮|色|艸|虍|虫|血|行|衣|襾|見|角|言|谷|豆|豕|豸|貝|赤|走|足|身|車|辛|辰|辵|邑|酉|釆|里|金|長"),
  (0x2FA8, "門|阜|隶|隹|雨|靑|非|面|革|韋|韭|音|頁|風|飛|食|首|香|馬|骨|高|髟|鬥|鬯|鬲|鬼|魚|鳥|鹵|鹿|麥|麻|黃|黍|黑|黹|黽|鼎|鼓|鼠|鼻|齊"),
  (0x2FD2, "齒|龍|龜|龠"),
  (0x3000, " "),
  (0x3036, "〒|〷|十|卄|卅"),
  (0x309B, " \u3099| \u309a|\u309d|\u309e|より"),
  (0x30FF, "コト"),
  (0x3131, "\u1100|\u1101|\u11aa|\u1102|\u11ac|\u11ad|\u1103|\u1104|\u1105|\u11b0|\u11b1|\u11b2"),
  (0x313D, "\u11b3|\u11b4|\u11b5|\u111a|\u1106|\u1107|\u1108|\u1121|\u1109|\u110a|\u110b|\u110c"),
  (0x3149, "\u110d|\u110e|\u110f|\u1110|\u1111|\u1112|\u1161|\u1162|\u1163|\u1164|\u1165|\u1166"),
  (0x3155, "\u1167|\u1168|\u1169|\u116a|\u116b|\u116c|\u116d|\u116e|\u116f|\u1170|\u1171|\u1172"),
  (0x3161, "\u1173|\u1174|\u1175|ㅤ|\u1114|\u1115|\u11c7|\u11c8|\u11cc|\u11ce|\u11d3|\u11d7"),
  (0x316D, "\u11d9|\u111c|\u11dd|\u11df|\u111d|\u111e|\u1120|\u1122|\u1123|\u1127|\u1129|\u112b"),
  (0x3179, "\u112c|\u112d|\u112e|\u112f|\u1132|\u1136|\u1140|\u1147|\u114c|\u11f1|\u11f2|\u1157"),
  (0x3185, "\u1158|\u1159|\u1184|\u1185|\u1188|\u1191|\u1192|\u1194|\u119e|\u11a1"),
  (0x3192, "一|二|三|四|上|中|下|甲|乙|丙|丁|天|地|人"),
  (0x3200, "(\u1100)|(\u1102)|(\u1103)|(\u1105)|(\u1106)|(\u1107)|(\u1109)|(\u110b)|(\u110c)"),
  (0x3209, "(\u110e)|(\u110f)|(\u1110)|(\u1111)|(\u1112)|(가)|(나)|(다)|(라)|(마)|(바)|(사)|(아)|(자)|(차)"),
  (0x3218, "(카)|(타)|(파)|(하)|(주)|(오전)|(오후)|\u321f|(一)|(二)|(三)|(四)|(五)|(六)|(七)|(八)|(九)|(十)|(月)|(火)"),
  (0x322C, "(水)|(木)|(金)|(土)|(日)|(株)|(有)|(社)|(名)|(特)|(財)|(祝)|(労)|(代)|(呼)|(学)|(監)|(企)|(資)|(協)|(祭)"),
  (0x3241, "(休)|(自)|(至)|問|幼|文|箏"),
  (0x3250, "pte|21|22|23|24|25|26|27|28|29|30|31|32|33|34|35|\u1100|\u1102|\u1103|\u1105|\u1106"),
  (0x3265, "\u1107|\u1109|\u110b|\u110c|\u110e|\u110f|\u1110|\u1111|\u1112|가|나|다|라|마|바|사|아|자|차|카"),
  (0x3279, "타|파|하|참고|주의|우|㉿|一|二|三|四|五|六|七|八|九|十|月|火|水|木|金|土|日|株|有|社|名|特|財|祝|労|秘|男|女|適|優|印|注|項|休"),
  (0x32A2, "写|正|上|中|下|左|右|医|宗|学|監|企|資|協|夜|36|37|38|39|40|41|42|43|44|45|46|47|48|49|50|1月|2月|3月"),
  (0x32C3, "4月|5月|6月|7月|8月|9月|10月|11月|12月|hg|erg|ev|ltd|ア|イ|ウ|エ|オ|カ|キ|ク|ケ|コ|サ|シ|ス|セ|ソ|タ|チ|ツ|テ|ト"),
  (0x32E4, "ナ|ニ|ヌ|ネ|ノ|ハ|ヒ|フ|ヘ|ホ|マ|ミ|ム|メ|モ|ヤ|ユ|ヨ|ラ|リ|ル|レ|ロ|ワ|ヰ|ヱ|ヲ|令和|アパ\u30fcト|アルファ|アンペア"),
  (0x3303, "ア\u30fcル|イニング|インチ|ウォン|エスク\u30fcド|エ\u30fcカ\u30fc|オンス|オ\u30fcム|カイリ|カラット|カロリ\u30fc|ガロン"),
  (0x330F, "ガンマ|ギガ|ギニ\u30fc|キュリ\u30fc|ギルダ\u30fc|キロ|キログラム|キロメ\u30fcトル|キロワット|グラム|グラムトン|クルゼイロ"),
  (0x331B, "クロ\u30fcネ|ケ\u30fcス|コルナ|コ\u30fcポ|サイクル|サンチ\u30fcム|シリング|センチ|セント|ダ\u30fcス|デシ|ドル|トン|ナノ"),
  (0x3329, "ノット|ハイツ|パ\u30fcセント|パ\u30fcツ|バ\u30fcレル|ピアストル|ピクル|ピコ|ビル|ファラッド|フィ\u30fcト|ブッシェル|フラン"),
  (0x3336, "ヘクタ\u30fcル|ペソ|ペニヒ|ヘルツ|ペンス|ペ\u30fcジ|ベ\u30fcタ|ポイント|ボルト|ホン|ポンド|ホ\u30fcル|ホ\u30fcン|マイクロ"),
  (0x3344, "マイル|マッハ|マルク|マンション|ミクロン|ミリ|ミリバ\u30fcル|メガ|メガトン|メ\u30fcトル|ヤ\u30fcド|ヤ\u30fcル|ユアン|リットル|リラ"),
  (0x3353, "ルピ\u30fc|ル\u30fcブル|レム|レントゲン|ワット|0点|1点|2点|3点|4点|5点|6点|7点|8点|9点|10点|11点|12点|13点|14点"),
  (0x3367, "15点|16点|17点|18点|19点|20点|21点|22点|23点|24点|hpa|da|au|bar|ov|pc|dm|dm2|dm3|iu|平成|昭和|大正"),
  (0x337E, "明治|株式会社|pa|na|μa|ma|ka|kb|mb|gb|cal|kcal|pf|nf|μf|μg|mg|kg|hz|khz|mhz|ghz|thz|μl|ml"),
  (0x3397, "dl|kl|fm|nm|μm|mm|cm|km|mm2|cm2|m2|km2|mm3|cm3|m3|km3|m∕s|m∕s2|pa|kpa|mpa|gpa|rad"),
  (0x33AE, "rad∕s|rad∕s2|ps|ns|μs|ms|pv|nv|μv|mv|kv|mv|pw|nw|μw|mw|kw|mw|kω|mω|a.m.|bq|cc|cd"),
  (0x33C6, "c∕kg|co.|db|gy|ha|hp|in|kk|km|kt|lm|ln|log|lx|mb|mil|mol|ph|p.m.|ppm|pr|sr|sv|wb|v∕m"),
  (0x33DF, "a∕m|1日|2日|3日|4日|5日|6日|7日|8日|9日|10日|11日|12日|13日|14日|15日|16日|17日|18日|19日|20日|21日|22日"),
  (0x33F6, "23日|24日|25日|26日|27日|28日|29日|30日|31日|gal"),
  (0xA640, "ꙁ|ꙁ|ꙃ|ꙃ|ꙅ|ꙅ|ꙇ|ꙇ|ꙉ|ꙉ|ꙋ|ꙋ|ꙍ|ꙍ|ꙏ|ꙏ|ꙑ|ꙑ|ꙓ|ꙓ|ꙕ|ꙕ|ꙗ|ꙗ|ꙙ|ꙙ|ꙛ|ꙛ|ꙝ|ꙝ|ꙟ|ꙟ|ꙡ|ꙡ|ꙣ|ꙣ|ꙥ|ꙥ|ꙧ|ꙧ|ꙩ|ꙩ"),
  (0xA66A, "ꙫ|ꙫ|ꙭ"),
  (0xA680, "ꚁ|ꚁ|ꚃ|ꚃ|ꚅ|ꚅ|ꚇ|ꚇ|ꚉ|ꚉ|ꚋ|ꚋ|ꚍ|ꚍ|ꚏ|ꚏ|ꚑ|ꚑ|ꚓ|ꚓ|ꚕ|ꚕ|ꚗ|ꚗ|ꚙ|ꚙ|ꚛ|ꚛ|ъ|ь"),
  (0xA722, "ꜣ|ꜣ|ꜥ|ꜥ|ꜧ|ꜧ|ꜩ|ꜩ|ꜫ|ꜫ|ꜭ|ꜭ|ꜯ"),
  (0xA732, "ꜳ|ꜳ|ꜵ|ꜵ|ꜷ|ꜷ|ꜹ|ꜹ|ꜻ|ꜻ|ꜽ|ꜽ|ꜿ|ꜿ|ꝁ|ꝁ|ꝃ|ꝃ|ꝅ|ꝅ|ꝇ|ꝇ|ꝉ|ꝉ|ꝋ|ꝋ|ꝍ|ꝍ|ꝏ|ꝏ|ꝑ|ꝑ|ꝓ|ꝓ|ꝕ|ꝕ|ꝗ|ꝗ|ꝙ|ꝙ|ꝛ|ꝛ"),
  (0xA75C, "ꝝ|ꝝ|ꝟ|ꝟ|ꝡ|ꝡ|ꝣ|ꝣ|ꝥ|ꝥ|ꝧ|ꝧ|ꝩ|ꝩ|ꝫ|ꝫ|ꝭ|ꝭ|ꝯ|ꝯ|ꝯ"),
  (0xA779, "ꝺ|ꝺ|ꝼ|ꝼ|ᵹ|ꝿ|ꝿ|ꞁ|ꞁ|ꞃ|ꞃ|ꞅ|ꞅ|ꞇ"),
  (0xA78B, "ꞌ|ꞌ|ɥ|ꞎ|ꞏ|ꞑ|ꞑ|ꞓ"),
  (0xA796, "ꞗ|ꞗ|ꞙ|ꞙ|ꞛ|ꞛ|ꞝ|ꞝ|ꞟ|ꞟ|ꞡ|ꞡ|ꞣ|ꞣ|ꞥ|ꞥ|ꞧ|ꞧ|ꞩ|ꞩ|ɦ|ɜ|ɡ|ɬ|ɪ|ꞯ|ʞ|ʇ|ʝ|ꭓ|ꞵ|ꞵ|ꞷ|ꞷ|ꞹ|ꞹ|ꞻ|ꞻ|ꞽ|ꞽ|ꞿ|ꞿ"),
  (0xA7C0, "ꟁ|ꟁ|ꟃ|ꟃ|ꞔ|ʂ|ᶎ|ꟈ|ꟈ|ꟊ"),
  (0xA7D0, "ꟑ"),
  (0xA7D6, "ꟗ|ꟗ|ꟙ"),
  (0xA7F2, "c|f|q|ꟶ|ꟶ|ꟷ|ħ|œ"),
  (0xAB5C, "ꜧ|ꬷ|ɫ|ꭒ"),
  (0xAB69, "ʍ"),
  (0xAB70, "Ꭰ|Ꭱ|Ꭲ|Ꭳ|Ꭴ|Ꭵ|Ꭶ|Ꭷ|Ꭸ|Ꭹ|Ꭺ|Ꭻ|Ꭼ|Ꭽ|Ꭾ|Ꭿ|Ꮀ|Ꮁ|Ꮂ|Ꮃ|Ꮄ|Ꮅ|Ꮆ|Ꮇ|Ꮈ|Ꮉ|Ꮊ|Ꮋ|Ꮌ|Ꮍ|Ꮎ|Ꮏ|Ꮐ|Ꮑ|Ꮒ|Ꮓ|Ꮔ|Ꮕ|Ꮖ|Ꮗ|Ꮘ|Ꮙ"),
  (0xAB9A, "Ꮚ|Ꮛ|Ꮜ|Ꮝ|Ꮞ|Ꮟ|Ꮠ|Ꮡ|Ꮢ|Ꮣ|Ꮤ|Ꮥ|Ꮦ|Ꮧ|Ꮨ|Ꮩ|Ꮪ|Ꮫ|Ꮬ|Ꮭ|Ꮮ|Ꮯ|Ꮰ|Ꮱ|Ꮲ|Ꮳ|Ꮴ|Ꮵ|Ꮶ|Ꮷ|Ꮸ|Ꮹ|Ꮺ|Ꮻ|Ꮼ|Ꮽ|Ꮾ|Ꮿ"),
  (0xF900, "豈|更|車|賈|滑|串|句|龜|龜|契|金|喇|奈|懶|癩|羅|蘿|螺|裸|邏|樂|洛|烙|珞|落|酪|駱|亂|卵|欄|爛|蘭|鸞|嵐|濫|藍|襤|拉|臘|蠟|廊|朗"),
  (0xF92A, "浪|狼|郎|來|冷|勞|擄|櫓|爐|盧|老|蘆|虜|路|露|魯|鷺|碌|祿|綠|菉|錄|鹿|論|壟|弄|籠|聾|牢|磊|賂|雷|壘|屢|樓|淚|漏|累|縷|陋|勒|肋"),
  (0xF954, "凜|凌|稜|綾|菱|陵|讀|拏|樂|諾|丹|寧|怒|率|異|北|磻|便|復|不|泌|數|索|參|塞|省|葉|說|殺|辰|沈|拾|若|掠|略|亮|兩|凉|梁|糧|良|諒"),
  (0xF97E, "量|勵|呂|女|廬|旅|濾|礪|閭|驪|麗|黎|力|曆|歷|轢|年|憐|戀|撚|漣|煉|璉|秊|練|聯|輦|蓮|連|鍊|列|劣|咽|烈|裂|說|廉|念|捻|殮|簾|獵"),
  (0xF9A8, "令|囹|寧|嶺|怜|玲|瑩|羚|聆|鈴|零|靈|領|例|禮|醴|隸|惡|了|僚|寮|尿|料|樂|燎|療|蓼|遼|龍|暈|阮|劉|杻|柳|流|溜|琉|留|硫|紐|類|六"),
  (0xF9D2, "戮|陸|倫|崙|淪|輪|律|慄|栗|率|隆|利|吏|履|易|李|梨|泥|理|痢|罹|裏|裡|里|離|匿|溺|吝|燐|璘|藺|隣|鱗|麟|林|淋|臨|立|笠|粒|狀|炙"),
  (0xF9FC, "識|什|茶|刺|切|度|拓|糖|宅|洞|暴|輻|行|降|見|廓|兀|嗀|﨎|﨏|塚|﨑|晴|﨓|﨔|凞|猪|益|礼|神|祥|福|靖|精|羽|﨟|蘒|﨡|諸|﨣|﨤|逸"),
  (0xFA26, "都"),
  (0xFA2A, "飯|飼|館|鶴|郞|隷|侮|僧|免|勉|勤|卑|喝|嘆|器|塀|墨|層|屮|悔|慨|憎|懲|敏|既|暑|梅|海|渚|漢|煮|爫|琢|碑|社|祉|祈|祐|祖|祝|禍|禎"),
  (0xFA54, "穀|突|節|練|縉|繁|署|者|臭|艹|艹|著|褐|視|謁|謹|賓|贈|辶|逸|難|響|頻|恵|𤋮|舘|\ufa6e|\ufa6f|並|况|全|侀|充|冀|勇|勺|喝"),
  (0xFA79, "啕|喙|嗢|塚|墳|奄|奔|婢|嬨|廒|廙|彩|徭|惘|慎|愈|憎|慠|懲|戴|揄|搜|摒|敖|晴|朗|望|杖|歹|殺|流|滛|滋|漢|瀞|煮|瞧|爵|犯|猪|瑱|甆"),
  (0xFAA3, "画|瘝|瘟|益|盛|直|睊|着|磌|窱|節|类|絛|練|缾|者|荒|華|蝹|襁|覆|視|調|諸|請|謁|諾|諭|謹|變|贈|輸|遲|醙|鉶|陼|難|靖|韛|響|頋|頻"),
  (0xFACD, "鬒|龜|𢡊|𢡄|𣏕|㮝|䀘|䀹|𥉉|𥳐|𧻓|齃|龎"),
  (0xFB00, "ff|fi|fl|ffi|ffl|st|st"),
  (0xFB13, "մն|մե|մի|վն|մխ"),
  (0xFB1D, "\u05d9\u05b4|\ufb1e|\u05f2\u05b7|\u05e2|\u05d0|\u05d3|\u05d4|\u05db|\u05dc|\u05dd"),
  (0xFB27, "\u05e8|\u05ea|+|\u05e9\u05c1|\u05e9\u05c2|\u05e9\u05bc\u05c1|\u05e9\u05bc\u05c2"),
  (0xFB2E, "\u05d0\u05b7|\u05d0\u05b8|\u05d0\u05bc|\u05d1\u05bc|\u05d2\u05bc|\u05d3\u05bc"),
  (0xFB34, "\u05d4\u05bc|\u05d5\u05bc|\u05d6\u05bc|\ufb37|\u05d8\u05bc|\u05d9\u05bc|\u05da\u05bc"),
  (0xFB3B, "\u05db\u05bc|\u05dc\u05bc|\ufb3d|\u05de\u05bc|\ufb3f|\u05e0\u05bc|\u05e1\u05bc"),
  (0xFB42, "\ufb42|\u05e3\u05bc|\u05e4\u05bc|\ufb45|\u05e6\u05bc|\u05e7\u05bc|\u05e8\u05bc"),
  (0xFB49, "\u05e9\u05bc|\u05ea\u05bc|\u05d5\u05b9|\u05d1\u05bf|\u05db\u05bf|\u05e4\u05bf"),
  (0xFB4F, "\u05d0\u05dc|\u0671|\u0671|\u067b|\u067b|\u067b|\u067b|\u067e|\u067e|\u067e|\u067e"),
  (0xFB5A, "\u0680|\u0680|\u0680|\u0680|\u067a|\u067a|\u067a|\u067a|\u067f|\u067f|\u067f|\u067f"),
  (0xFB66, "\u0679|\u0679|\u0679|\u0679|\u06a4|\u06a4|\u06a4|\u06a4|\u06a6|\u06a6|\u06a6|\u06a6"),
  (0xFB72, "\u0684|\u0684|\u0684|\u0684|\u0683|\u0683|\u0683|\u0683|\u0686|\u0686|\u0686|\u0686"),
  (0xFB7E, "\u0687|\u0687|\u0687|\u0687|\u068d|\u068d|\u068c|\u068c|\u068e|\u068e|\u0688|\u0688"),
  (0xFB8A, "\u0698|\u0698|\u0691|\u0691|\u06a9|\u06a9|\u06a9|\u06a9|\u06af|\u06af|\u06af|\u06af"),
  (0xFB96, "\u06b3|\u06b3|\u06b3|\u06b3|\u06b1|\u06b1|\u06b1|\u06b1|\u06ba|\u06ba|\u06bb|\u06bb"),
  (0xFBA2, "\u06bb|\u06bb|\u06c0|\u06c0|\u06c1|\u06c1|\u06c1|\u06c1|\u06be|\u06be|\u06be|\u06be"),
  (0xFBAE, "\u06d2|\u06d2|\u06d3|\u06d3"),
  (0xFBD3, "\u06ad|\u06ad|\u06ad|\u06ad|\u06c7|\u06c7|\u06c6|\u06c6|\u06c8|\u06c8|\u06c7\u0674"),
  (0xFBDE, "\u06cb|\u06cb|\u06c5|\u06c5|\u06c9|\u06c9|\u06d0|\u06d0|\u06d0|\u06d0|\u0649|\u0649"),
  (0xFBEA, "\u0626\u0627|\u0626\u0627|\u0626\u06d5|\u0626\u06d5|\u0626\u0648|\u0626\u0648"),
  (0xFBF0, "\u0626\u06c7|\u0626\u06c7|\u0626\u06c6|\u0626\u06c6|\u0626\u06c8|\u0626\u06c8"),
  (0xFBF6, "\u0626\u06d0|\u0626\u06d0|\u0626\u06d0|\u0626\u0649|\u0626\u0649|\u0626\u0649|\u06cc"),
  (0xFBFD, "\u06cc|\u06cc|\u06cc|\u0626\u062c|\u0626\u062d|\u0626\u0645|\u0626\u0649"),
  (0xFC04, "\u0626\u064a|\u0628\u062c|\u0628\u062d|\u0628\u062e|\u0628\u0645|\u0628\u0649"),
  (0xFC0A, "\u0628\u064a|\u062a\u062c|\u062a\u062d|\u062a\u062e|\u062a\u0645|\u062a\u0649"),
  (0xFC10, "\u062a\u064a|\u062b\u062c|\u062b\u0645|\u062b\u0649|\u062b\u064a|\u062c\u062d"),
  (0xFC16, "\u062c\u0645|\u062d\u062c|\u062d\u0645|\u062e\u062c|\u062e\u062d|\u062e\u0645"),
  (0xFC1C, "\u0633\u062c|\u0633\u062d|\u0633\u062e|\u0633\u0645|\u0635\u062d|\u0635\u0645"),
  (0xFC22, "\u0636\u062c|\u0636\u062d|\u0636\u062e|\u0636\u0645|\u0637\u062d|\u0637\u0645"),
  (0xFC28, "\u0638\u0645|\u0639\u062c|\u0639\u0645|\u063a\u062c|\u063a\u0645|\u0641\u062c"),
  (0xFC2E, "\u0641\u062d|\u0641\u062e|\u0641\u0645|\u0641\u0649|\u0641\u064a|\u0642\u062d"),
  (0xFC34, "\u0642\u0645|\u0642\u0649|\u0642\u064a|\u0643\u0627|\u0643\u062c|\u0643\u062d"),
  (0xFC3A, "\u0643\u062e|\u0643\u0644|\u0643\u0645|\u0643\u0649|\u0643\u064a|\u0644\u062c"),
  (0xFC40, "\u0644\u062d|\u0644\u062e|\u0644\u0645|\u0644\u0649|\u0644\u064a|\u0645\u062c"),
  (0xFC46, "\u0645\u062d|\u0645\u062e|\u0645\u0645|\u0645\u0649|\u0645\u064a|\u0646\u062c"),
  (0xFC4C, "\u0646\u062d|\u0646\u062e|\u0646\u0645|\u0646\u0649|\u0646\u064a|\u0647\u062c"),
  (0xFC52, "\u0647\u0645|\u0647\u0649|\u0647\u064a|\u064a\u062c|\u064a\u062d|\u064a\u062e"),
  (0xFC58, "\u064a\u0645|\u064a\u0649|\u064a\u064a|\u0630\u0670|\u0631\u0670|\u0649\u0670"),
  (0xFC5E, " \u064c\u0651| \u064d\u0651| \u064e\u0651| \u064f\u0651| \u0650\u0651| \u0651\u0670"),
  (0xFC64, "\u0626\u0631|\u0626\u0632|\u0626\u0645|\u0626\u0646|\u0626\u0649|\u0626\u064a"),
  (0xFC6A, "\u0628\u0631|\u0628\u0632|\u0628\u0645|\u0628\u0646|\u0628\u0649|\u0628\u064a"),
  (0xFC70, "\u062a\u0631|\u062a\u0632|\u062a\u0645|\u062a\u0646|\u062a\u0649|\u062a\u064a"),
  (0xFC76, "\u062b\u0631|\u062b\u0632|\u062b\u0645|\u062b\u0646|\u062b\u0649|\u062b\u064a"),
  (0xFC7C, "\u0641\u0649|\u0641\u064a|\u0642\u0649|\u0642\u064a|\u0643\u0627|\u0643\u0644"),
  (0xFC82, "\u0643\u0645|\u0643\u0649|\u0643\u064a|\u0644\u0645|\u0644\u0649|\u0644\u064a"),
  (0xFC88, "\u0645\u0627|\u0645\u0645|\u0646\u0631|\u0646\u0632|\u0646\u0645|\u0646\u0646"),
  (0xFC8E, "\u0646\u0649|\u0646\u064a|\u0649\u0670|\u064a\u0631|\u064a\u0632|\u064a\u0645"),
  (0xFC94, "\u064a\u0646|\u064a\u0649|\u064a\u064a|\u0626\u062c|\u0626\u062d|\u0626\u062e"),
  (0xFC9A, "\u0626\u0645|\u0626\u0647|\u0628\u062c|\u0628\u062d|\u0628\u062e|\u0628\u0645"),
  (0xFCA0, "\u0628\u0647|\u062a\u062c|\u062a\u062d|\u062a\u062e|\u062a\u0645|\u062a\u0647"),
  (0xFCA6, "\u062b\u0645|\u062c\u062d|\u062c\u0645|\u062d\u062c|\u062d\u0645|\u062e\u062c"),
  (0xFCAC, "\u062e\u0645|\u0633\u062c|\u0633\u062d|\u0633\u062e|\u0633\u0645|\u0635\u062d"),
  (0xFCB2, "\u0635\u062e|\u0635\u0645|\u0636\u062c|\u0636\u062d|\u0636\u062e|\u0636\u0645"),
  (0xFCB8, "\u0637\u062d|\u0638\u0645|\u0639\u062c|\u0639\u0645|\u063a\u062c|\u063a\u0645"),
  (0xFCBE, "\u0641\u062c|\u0641\u062d|\u0641\u062e|\u0641\u0645|\u0642\u062d|\u0642\u0645"),
  (0xFCC4, "\u0643\u062c|\u0643\u062d|\u0643\u062e|\u0643\u0644|\u0643\u0645|\u0644\u062c"),
  (0xFCCA, "\u0644\u062d|\u0644\u062e|\u0644\u0645|\u0644\u0647|\u0645\u062c|\u0645\u062d"),
  (0xFCD0, "\u0645\u062e|\u0645\u0645|\u0646\u062c|\u0646\u062d|\u0646\u062e|\u0646\u0645"),
  (0xFCD6, "\u0646\u0647|\u0647\u062c|\u0647\u0645|\u0647\u0670|\u064a\u062c|\u064a\u062d"),
  (0xFCDC, "\u064a\u062e|\u064a\u0645|\u064a\u0647|\u0626\u0645|\u0626\u0647|\u0628\u0645"),
  (0xFCE2, "\u0628\u0647|\u062a\u0645|\u062a\u0647|\u062b\u0645|\u062b\u0647|\u0633\u0645"),
  (0xFCE8, "\u0633\u0647|\u0634\u0645|\u0634\u0647|\u0643\u0644|\u0643\u0645|\u0644\u0645"),
  (0xFCEE, "\u0646\u0645|\u0646\u0647|\u064a\u0645|\u064a\u0647|\u0640\u064e\u0651"),
  (0xFCF3, "\u0640\u064f\u0651|\u0640\u0650\u0651|\u0637\u0649|\u0637\u064a|\u0639\u0649"),
  (0xFCF8, "\u0639\u064a|\u063a\u0649|\u063a\u064a|\u0633\u0649|\u0633\u064a|\u0634\u0649"),
  (0xFCFE, "\u0634\u064a|\u062d\u0649|\u062d\u064a|\u062c\u0649|\u062c\u064a|\u062e\u0649"),
  (0xFD04, "\u062e\u064a|\u0635\u0649|\u0635\u064a|\u0636\u0649|\u0636\u064a|\u0634\u062c"),
  (0xFD0A, "\u0634\u062d|\u0634\u062e|\u0634\u0645|\u0634\u0631|\u0633\u0631|\u0635\u0631"),
  (0xFD10, "\u0636\u0631|\u0637\u0649|\u0637\u064a|\u0639\u0649|\u0639\u064a|\u063a\u0649"),
  (0xFD16, "\u063a\u064a|\u0633\u0649|\u0633\u064a|\u0634\u0649|\u0634\u064a|\u062d\u0649"),
  (0xFD1C, "\u062d\u064a|\u062c\u0649|\u062c\u064a|\u062e\u0649|\u062e\u064a|\u0635\u0649"),
  (0xFD22, "\u0635\u064a|\u0636\u0649|\u0636\u064a|\u0634\u062c|\u0634\u062d|\u0634\u062e"),
  (0xFD28, "\u0634\u0645|\u0634\u0631|\u0633\u0631|\u0635\u0631|\u0636\u0631|\u0634\u062c"),
  (0xFD2E, "\u0634\u062d|\u0634\u062e|\u0634\u0645|\u0633\u0647|\u0634\u0647|\u0637\u0645"),
  (0xFD34, "\u0633\u062c|\u0633\u062d|\u0633\u062e|\u0634\u062c|\u0634\u062d|\u0634\u062e"),
  (0xFD3A, "\u0637\u0645|\u0638\u0645|\u0627\u064b|\u0627\u064b"),
  (0xFD50, "\u062a\u062c\u0645|\u062a\u062d\u062c|\u062a\u062d\u062c|\u062a\u062d\u0645"),
  (0xFD54, "\u062a\u062e\u0645|\u062a\u0645\u062c|\u062a\u0645\u062d|\u062a\u0645\u062e"),
  (0xFD58, "\u062c\u0645\u062d|\u062c\u0645\u062d|\u062d\u0645\u064a|\u062d\u0645\u0649"),
  (0xFD5C, "\u0633\u062d\u062c|\u0633\u062c\u062d|\u0633\u062c\u0649|\u0633\u0645\u062d"),
  (0xFD60, "\u0633\u0645\u062d|\u0633\u0645\u062c|\u0633\u0645\u0645|\u0633\u0645\u0645"),
  (0xFD64, "\u0635\u062d\u062d|\u0635\u062d\u062d|\u0635\u0645\u0645|\u0634\u062d\u0645"),
  (0xFD68, "\u0634\u062d\u0645|\u0634\u062c\u064a|\u0634\u0645\u062e|\u0634\u0645\u062e"),
  (0xFD6C, "\u0634\u0645\u0645|\u0634\u0645\u0645|\u0636\u062d\u0649|\u0636\u062e\u0645"),
  (0xFD70, "\u0636\u062e\u0645|\u0637\u0645\u062d|\u0637\u0645\u062d|\u0637\u0645\u0645"),
  (0xFD74, "\u0637\u0645\u064a|\u0639\u062c\u0645|\u0639\u0645\u0645|\u0639\u0645\u0645"),
  (0xFD78, "\u0639\u0645\u0649|\u063a\u0645\u0645|\u063a\u0645\u064a|\u063a\u0645\u0649"),
  (0xFD7C, "\u0641\u062e\u0645|\u0641\u062e\u0645|\u0642\u0645\u062d|\u0642\u0645\u0645"),
  (0xFD80, "\u0644\u062d\u0645|\u0644\u062d\u064a|\u0644\u062d\u0649|\u0644\u062c\u062c"),
  (0xFD84, "\u0644\u062c\u062c|\u0644\u062e\u0645|\u0644\u062e\u0645|\u0644\u0645\u062d"),
  (0xFD88, "\u0644\u0645\u062d|\u0645\u062d\u062c|\u0645\u062d\u0645|\u0645\u062d\u064a"),
  (0xFD8C, "\u0645\u062c\u062d|\u0645\u062c\u0645|\u0645\u062e\u062c|\u0645\u062e\u0645|\ufd90"),
  (0xFD91, "\ufd91|\u0645\u062c\u062e|\u0647\u0645\u062c|\u0647\u0645\u0645|\u0646\u062d\u0645"),
  (0xFD96, "\u0646\u062d\u0649|\u0646\u062c\u0645|\u0646\u062c\u0645|\u0646\u062c\u0649"),
  (0xFD9A, "\u0646\u0645\u064a|\u0646\u0645\u0649|\u064a\u0645\u0645|\u064a\u0645\u0645"),
  (0xFD9E, "\u0628\u062e\u064a|\u062a\u062c\u064a|\u062a\u062c\u0649|\u062a\u062e\u064a"),
  (0xFDA2, "\u062a\u062e\u0649|\u062a\u0645\u064a|\u062a\u0645\u0649|\u062c\u0645\u064a"),
  (0xFDA6, "\u062c\u062d\u0649|\u062c\u0645\u0649|\u0633\u062e\u0649|\u0635\u062d\u064a"),
  (0xFDAA, "\u0634\u062d\u064a|\u0636\u062d\u064a|\u0644\u062c\u064a|\u0644\u0645\u064a"),
  (0xFDAE, "\u064a\u062d\u064a|\u064a\u062c\u064a|\u064a\u0645\u064a|\u0645\u0645\u064a"),
  (0xFDB2, "\u0642\u0645\u064a|\u0646\u062d\u064a|\u0642\u0645\u062d|\u0644\u062d\u0645"),
  (0xFDB6, "\u0639\u0645\u064a|\u0643\u0645\u064a|\u0646\u062c\u062d|\u0645\u062e\u064a"),
  (0xFDBA, "\u0644\u062c\u0645|\u0643\u0645\u0645|\u0644\u062c\u0645|\u0646\u062c\u062d"),
  (0xFDBE, "\u062c\u062d\u064a|\u062d\u062c\u064a|\u0645\u062c\u064a|\u0641\u0645\u064a"),
  (0xFDC2, "\u0628\u062d\u064a|\u0643\u0645\u0645|\u0639\u062c\u0645|\u0635\u0645\u0645"),
  (0xFDC6, "\u0633\u062e\u064a|\u0646\u062c\u064a"),
  (0xFDF0, "\u0635\u0644\u06d2|\u0642\u0644\u06d2|\u0627\u0644\u0644\u0647"),
  (0xFDF3, "\u0627\u0643\u0628\u0631|\u0645\u062d\u0645\u062f|\u0635\u0644\u0639\u0645"),
  (0xFDF6, "\u0631\u0633\u0648\u0644|\u0639\u0644\u064a\u0647|\u0648\u0633\u0644\u0645"),
  (0xFDF9, "\u0635\u0644\u0649"),
  (0xFDFA, "\u0635\u0644\u0649 \u0627\u0644\u0644\u0647"
    ++ " \u0639\u0644\u064a\u0647 \u0648\u0633\u0644\u0645"),
  (0xFDFB, "\u062c\u0644 \u062c\u0644\u0627\u0644\u0647|\u0631\u06cc\u0627\u0644"),
  (0xFE10, ",|、|。|:|;|!|?|〖|〗|..."),
  (0xFE30, "..|—|–|_|_|(|)|\x7b|\x7d|〔|〕|【|】|《|》|〈|〉|「|」|『|』|﹅|﹆|[|]| \u0305| \u0305| \u0305"),
  (0xFE4C, " \u0305|_|_|_|,|、|.|\ufe53|;|:|?|!|—|(|)|\x7b|\x7d|〔|〕|#|&|*|+|-|<|>|=|\ufe67|\x5c|$"),
  (0xFE6A, "%|@"),
  (0xFE70, " \u064b|\u0640\u064b| \u064c|\ufe73| \u064d|\ufe75| \u064e|\u0640\u064e| \u064f"),
  (0xFE79, "\u0640\u064f| \u0650|\u0640\u0650| \u0651|\u0640\u0651| \u0652|\u0640\u0652|\u0621"),
  (0xFE81, "\u0622|\u0622|\u0623|\u0623|\u0624|\u0624|\u0625|\u0625|\u0626|\u0626|\u0626|\u0626"),
  (0xFE8D, "\u0627|\u0627|\u0628|\u0628|\u0628|\u0628|\u0629|\u0629|\u062a|\u062a|\u062a|\u062a"),
  (0xFE99, "\u062b|\u062b|\u062b|\u062b|\u062c|\u062c|\u062c|\u062c|\u062d|\u062d|\u062d|\u062d"),
  (0xFEA5, "\u062e|\u062e|\u062e|\u062e|\u062f|\u062f|\u0630|\u0630|\u0631|\u0631|\u0632|\u0632"),
  (0xFEB1, "\u0633|\u0633|\u0633|\u0633|\u0634|\u0634|\u0634|\u0634|\u0635|\u0635|\u0635|\u0635"),
  (0xFEBD, "\u0636|\u0636|\u0636|\u0636|\u0637|\u0637|\u0637|\u0637|\u0638|\u0638|\u0638|\u0638"),
  (0xFEC9, "\u0639|\u0639|\u0639|\u0639|\u063a|\u063a|\u063a|\u063a|\u0641|\u0641|\u0641|\u0641"),
  (0xFED5, "\u0642|\u0642|\u0642|\u0642|\u0643|\u0643|\u0643|\u0643|\u0644|\u0644|\u0644|\u0644"),
  (0xFEE1, "\u0645|\u0645|\u0645|\u0645|\u0646|\u0646|\u0646|\u0646|\u0647|\u0647|\u0647|\u0647"),
  (0xFEED, "\u0648|\u0648|\u0649|\u0649|\u064a|\u064a|\u064a|\u064a|\u0644\u0622|\u0644\u0622"),
  (0xFEF7, "\u0644\u0623|\u0644\u0623|\u0644\u0625|\u0644\u0625|\u0644\u0627|\u0644\u0627"),
  (0xFF5F, "⦅|⦆|｡|「|」|、|・|ヲ|ァ|ィ|ゥ|ェ|ォ|ャ|ュ|ョ|ッ|\u30fc|ア|イ|ウ|エ|オ|カ|キ|ク|ケ|コ|サ|シ|ス|セ|ソ|タ|チ|ツ|テ|ト|ナ|ニ"),
  (0xFF87, "ヌ|ネ|ノ|ハ|ヒ|フ|ヘ|ホ|マ|ミ|ム|メ|モ|ヤ|ユ|ヨ|ラ|リ|ル|レ|ロ|ワ|ン|\u3099|\u309a|ﾠ|\u1100|\u1101|\u11aa"),
  (0xFFA4, "\u1102|\u11ac|\u11ad|\u1103|\u1104|\u1105|\u11b0|\u11b1|\u11b2|\u11b3|\u11b4|\u11b5"),
  (0xFFB0, "\u111a|\u1106|\u1107|\u1108|\u1121|\u1109|\u110a|\u110b|\u110c|\u110d|\u110e|\u110f"),
  (0xFFBC, "\u1110|\u1111|\u1112"),
  (0xFFC2, "\u1161|\u1162|\u1163|\u1164|\u1165|\u1166|\uffc8|\uffc9|\u1167|\u1168|\u1169|\u116a"),
  (0xFFCE, "\u116b|\u116c|\uffd0|\uffd1|\u116d|\u116e|\u116f|\u1170|\u1171|\u1172|\uffd8|\uffd9"),
  (0xFFDA, "\u1173|\u1174|\u1175"),
  (0xFFE0, "¢|£|¬| \u0304|¦|¥|₩|\uffe7|│|←|↑|→|↓|■|○"),
  (0x10400, "𐐨|𐐩|𐐪|𐐫|𐐬|𐐭|𐐮|𐐯|𐐰|𐐱|𐐲|𐐳|𐐴|𐐵|𐐶|𐐷|𐐸|𐐹|𐐺|𐐻|𐐼|𐐽|𐐾|𐐿|𐑀|𐑁|𐑂|𐑃|𐑄|𐑅|𐑆|𐑇|𐑈|𐑉|𐑊|𐑋|𐑌|𐑍|𐑎|𐑏"),
  (0x104B0, "𐓘|𐓙|𐓚|𐓛|𐓜|𐓝|𐓞|𐓟|𐓠|𐓡|𐓢|𐓣|𐓤|𐓥|𐓦|𐓧|𐓨|𐓩|𐓪|𐓫|𐓬|𐓭|𐓮|𐓯|𐓰|𐓱|𐓲|𐓳|𐓴|𐓵|𐓶|𐓷|𐓸|𐓹|𐓺|𐓻"),
  (0x10570, "𐖗|𐖘|𐖙|𐖚|𐖛|𐖜|𐖝|𐖞|𐖟|𐖠|𐖡|𐕻|𐖣|𐖤|𐖥|𐖦|𐖧|𐖨|𐖩|𐖪|𐖫|𐖬|𐖭|𐖮|𐖯|𐖰|𐖱|𐖋|𐖳|𐖴|𐖵|𐖶|𐖷|𐖸|𐖹|𐖓|𐖻|𐖼"),
  (0x10781, "\u02d0|\u02d1|æ|ʙ|ɓ|𐞆|ʣ|ꭦ|ʥ|ʤ|ɖ|ɗ|ᶑ|ɘ|ɞ|ʩ|ɤ|ɢ|ɠ|ʛ|ħ|ʜ|ɧ|ʄ|ʪ|ʫ|ɬ|𝼄|ꞎ|ɮ|𝼅|ʎ|𝼆|ø|ɶ|ɷ|q"),
  (0x107A6, "ɺ|𝼈|ɽ|ɾ|ʀ|ʨ|ʦ|ꭧ|ʧ|ʈ|ⱱ|𐞱|ʏ|ʡ|ʢ|ʘ|ǀ|ǁ|ǂ|𝼊|𝼞"),
  (0x10C80, "𐳀|𐳁|𐳂|𐳃|𐳄|𐳅|𐳆|𐳇|𐳈|𐳉|𐳊|𐳋|𐳌|𐳍|𐳎|𐳏|𐳐|𐳑|𐳒|𐳓|𐳔|𐳕|𐳖|𐳗|𐳘|𐳙|𐳚|𐳛|𐳜|𐳝|𐳞|𐳟|𐳠|𐳡|𐳢|𐳣|𐳤|𐳥|𐳦|𐳧|𐳨|𐳩"),
  (0x10CAA, "𐳪|𐳫|𐳬|𐳭|𐳮|𐳯|𐳰|𐳱|𐳲"),
  (0x118A0, "𑣀|𑣁|𑣂|𑣃|𑣄|𑣅|𑣆|𑣇|𑣈|𑣉|𑣊|𑣋|𑣌|𑣍|𑣎|𑣏|𑣐|𑣑|𑣒|𑣓|𑣔|𑣕|𑣖|𑣗|𑣘|𑣙|𑣚|𑣛|𑣜|𑣝|𑣞|𑣟"),
  (0x16E40, "𖹠|𖹡|𖹢|𖹣|𖹤|𖹥|𖹦|𖹧|𖹨|𖹩|𖹪|𖹫|𖹬|𖹭|𖹮|𖹯|𖹰|𖹱|𖹲|𖹳|𖹴|𖹵|𖹶|𖹷|𖹸|𖹹|𖹺|𖹻|𖹼|𖹽|𖹾|𖹿"),
  (0x1D15E, "𝅗𝅥|𝅘𝅥|𝅘𝅥𝅮|𝅘𝅥𝅯|𝅘𝅥𝅰|𝅘𝅥𝅱|𝅘𝅥𝅲"),
  (0x1D1BB, "𝆹𝅥|𝆺𝅥|𝆹𝅥𝅮|𝆺𝅥𝅮|𝆹𝅥𝅯|𝆺𝅥𝅯"),
  (0x1D400, "a|b|c|d|e|f|g|h|i|j|k|l|m|n|o|p|q|r|s|t|u|v|w|x|y|z|a|b|c|d|e|f|g|h|i|j|k|l|m|n|o|p"),
  (0x1D42A, "q|r|s|t|u|v|w|x|y|z|a|b|c|d|e|f|g|h|i|j|k|l|m|n|o|p|q|r|s|t|u|v|w|x|y|z|a|b|c|d|e|f"),
  (0x1D454, "g|𝑕|i|j|k|l|m|n|o|p|q|r|s|t|u|v|w|x|y|z|a|b|c|d|e|f|g|h|i|j|k|l|m|n|o|p|q|r|s|t|u|v"),
  (0x1D47E, "w|x|y|z|a|b|c|d|e|f|g|h|i|j|k|l|m|n|o|p|q|r|s|t|u|v|w|x|y|z|a|𝒝|c|d|𝒠|𝒡|g|𝒣|𝒤|j|k|𝒧"),
  (0x1D4A8, "𝒨|n|o|p|q|𝒭|s|t|u|v|w|x|y|z|a|b|c|d|𝒺|f|𝒼|h|i|j|k|l|m|n|𝓄|p|q|r|s|t|u|v|w|x|y|z|a|b"),
  (0x1D4D2, "c|d|e|f|g|h|i|j|k|l|m|n|o|p|q|r|s|t|u|v|w|x|y|z|a|b|c|d|e|f|g|h|i|j|k|l|m|n|o|p|q|r"),
  (0x1D4FC, "s|t|u|v|w|x|y|z|a|b|𝔆|d|e|f|g|𝔋|𝔌|j|k|l|m|n|o|p|q|𝔕|s|t|u|v|w|x|y|𝔝|a|b|c|d|e|f|g|h"),
  (0x1D526, "i|j|k|l|m|n|o|p|q|r|s|t|u|v|w|x|y|z|a|b|𝔺|d|e|f|g|𝔿|i|j|k|l|m|𝕅|o"),
  (0x1D54A, "s|t|u|v|w|x|y|𝕑|a|b|c|d|e|f|g|h|i|j|k|l|m|n|o|p|q|r|s|t|u|v|w|x|y|z|a|b|c|d|e|f|g|h"),
  (0x1D574, "i|j|k|l|m|n|o|p|q|r|s|t|u|v|w|x|y|z|a|b|c|d|e|f|g|h|i|j|k|l|m|n|o|p|q|r|s|t|u|v|w|x"),
  (0x1D59E, "y|z|a|b|c|d|e|f|g|h|i|j|k|l|m|n|o|p|q|r|s|t|u|v|w|x|y|z|a|b|c|d|e|f|g|h|i|j|k|l|m|n"),
  (0x1D5C8, "o|p|q|r|s|t|u|v|w|x|y|z|a|b|c|d|e|f|g|h|i|j|k|l|m|n|o|p|q|r|s|t|u|v|w|x|y|z|a|b|c|d"),
  (0x1D5F2, "e|f|g|h|i|j|k|l|m|n|o|p|q|r|s|t|u|v|w|x|y|z|a|b|c|d|e|f|g|h|i|j|k|l|m|n|o|p|q|r|s|t"),
  (0x1D61C, "u|v|w|x|y|z|a|b|c|d|e|f|g|h|i|j|k|l|m|n|o|p|q|r|s|t|u|v|w|x|y|z|a|b|c|d|e|f|g|h|i|j"),
  (0x1D646, "k|l|m|n|o|p|q|r|s|t|u|v|w|x|y|z|a|b|c|d|e|f|g|h|i|j|k|l|m|n|o|p|q|r|s|t|u|v|w|x|y|z"),
  (0x1D670, "a|b|c|d|e|f|g|h|i|j|k|l|m|n|o|p|q|r|s|t|u|v|w|x|y|z|a|b|c|d|e|f|g|h|i|j|k|l|m|n|o|p"),
  (0x1D69A, "q|r|s|t|u|v|w|x|y|z|ı|ȷ|𝚦|𝚧|α|β|γ|δ|ε|ζ|η|θ|ι|κ|λ|μ|ν|ξ|ο|π|ρ|θ|σ|τ|υ|φ|χ|ψ|ω|∇|α|β"),
  (0x1D6C4, "γ|δ|ε|ζ|η|θ|ι|κ|λ|μ|ν|ξ|ο|π|ρ|σ|σ|τ|υ|φ|χ|ψ|ω|∂|ε|θ|κ|φ|ρ|π|α|β|γ|δ|ε|ζ|η|θ|ι|κ|λ|μ"),
  (0x1D6EE, "ν|ξ|ο|π|ρ|θ|σ|τ|υ|φ|χ|ψ|ω|∇|α|β|γ|δ|ε|ζ|η|θ|ι|κ|λ|μ|ν|ξ|ο|π|ρ|σ|σ|τ|υ|φ|χ|ψ|ω|∂|ε|θ"),
  (0x1D718, "κ|φ|ρ|π|α|β|γ|δ|ε|ζ|η|θ|ι|κ|λ|μ|ν|ξ|ο|π|ρ|θ|σ|τ|υ|φ|χ|ψ|ω|∇|α|β|γ|δ|ε|ζ|η|θ|ι|κ|λ|μ"),
  (0x1D742, "ν|ξ|ο|π|ρ|σ|σ|τ|υ|φ|χ|ψ|ω|∂|ε|θ|κ|φ|ρ|π|α|β|γ|δ|ε|ζ|η|θ|ι|κ|λ|μ|ν|ξ|ο|π|ρ|θ|σ|τ|υ|φ"),
  (0x1D76C, "χ|ψ|ω|∇|α|β|γ|δ|ε|ζ|η|θ|ι|κ|λ|μ|ν|ξ|ο|π|ρ|σ|σ|τ|υ|φ|χ|ψ|ω|∂|ε|θ|κ|φ|ρ|π|α|β|γ|δ|ε|ζ"),
  (0x1D796, "η|θ|ι|κ|λ|μ|ν|ξ|ο|π|ρ|θ|σ|τ|υ|φ|χ|ψ|ω|∇|α|β|γ|δ|ε|ζ|η|θ|ι|κ|λ|μ|ν|ξ|ο|π|ρ|σ|σ|τ|υ|φ"),
  (0x1D7C0, "χ|ψ|ω|∂|ε|θ|κ|φ|ρ|π|ϝ|ϝ|𝟌|𝟍|0|1|2|3|4|5|6|7|8|9|0|1|2|3|4|5|6|7|8|9|0|1|2|3|4|5|6|7"),
  (0x1D7EA, "8|9|0|1|2|3|4|5|6|7|8|9|0|1|2|3|4|5|6|7|8|9"),
  (0x1E030, "а|б|в|г|д|е|ж|з|и|к|л|м|о|п|р|с|т|у|ф|х|ц|ч|ш|ы|э|ю|ꚉ|ә|і|ј|ө|ү|ӏ|а|б|в|г|д|е|ж|з|и"),
  (0x1E05A, "к|л|о|п|с|у|ф|х|ц|ч|ш|ъ|ы|ґ|і|ѕ|џ|ҫ|ꙑ|ұ"),
  (0x1E900, "𞤢|𞤣|𞤤|𞤥|𞤦|𞤧|𞤨|𞤩|𞤪|𞤫|𞤬|𞤭|𞤮|𞤯|𞤰|𞤱|𞤲|𞤳|𞤴|𞤵|𞤶|𞤷|𞤸|𞤹|𞤺|𞤻|𞤼|𞤽|𞤾|𞤿|𞥀|𞥁|𞥂|𞥃"),
  (0x1EE00, "\u0627|\u0628|\u062c|\u062f|𞸄|\u0648|\u0632|\u062d|\u0637|\u064a|\u0643|\u0644"),
  (0x1EE0C, "\u0645|\u0646|\u0633|\u0639|\u0641|\u0635|\u0642|\u0631|\u0634|\u062a|\u062b|\u062e"),
  (0x1EE18, "\u0630|\u0636|\u0638|\u063a|\u066e|\u06ba|\u06a1|\u066f|𞸠|\u0628|\u062c|𞸣|\u0647|𞸥"),
  (0x1EE26, "𞸦|\u062d|𞸨|\u064a|\u0643|\u0644|\u0645|\u0646|\u0633|\u0639|\u0641|\u0635|\u0642|𞸳"),
  (0x1EE34, "\u0634|\u062a|\u062b|\u062e|𞸸|\u0636|𞸺|\u063a"),
  (0x1EE42, "\u062c"),
  (0x1EE47, "\u062d|𞹈|\u064a|𞹊|\u0644|𞹌|\u0646|\u0633|\u0639|𞹐|\u0635|\u0642|𞹓|\u0634|𞹕|𞹖|\u062e"),
  (0x1EE58, "𞹘|\u0636|𞹚|\u063a|𞹜|\u06ba|𞹞|\u066f|𞹠|\u0628|\u062c|𞹣|\u0647|𞹥|𞹦|\u062d|\u0637"),
  (0x1EE69, "\u064a|\u0643|𞹫|\u0645|\u0646|\u0633|\u0639|\u0641|\u0635|\u0642|𞹳|\u0634|\u062a"),
  (0x1EE76, "\u062b|\u062e|𞹸|\u0636|\u0638|\u063a|\u066e|𞹽|\u06a1|𞹿|\u0627|\u0628|\u062c|\u062f"),
  (0x1EE84, "\u0647|\u0648|\u0632|\u062d|\u0637|\u064a|𞺊|\u0644|\u0645|\u0646|\u0633|\u0639"),
  (0x1EE90, "\u0641|\u0635|\u0642|\u0631|\u0634|\u062a|\u062b|\u062e|\u0630|\u0636|\u0638|\u063a"),
  (0x1EEA1, "\u0628|\u062c|\u062f|𞺤|\u0648|\u0632|\u062d|\u0637|\u064a|𞺪|\u0644|\u0645|\u0646"),
  (0x1EEAE, "\u0633|\u0639|\u0641|\u0635|\u0642|\u0631|\u0634|\u062a|\u062b|\u062e|\u0630|\u0636"),
  (0x1EEBA, "\u0638|\u063a"),
  (0x1F100, "0.|0,|1,|2,|3,|4,|5,|6,|7,|8,|9,"),
  (0x1F110, "(a)|(b)|(c)|(d)|(e)|(f)|(g)|(h)|(i)|(j)|(k)|(l)|(m)|(n)|(o)|(p)|(q)|(r)|(s)|(t)|(u)"),
  (0x1F125, "(v)|(w)|(x)|(y)|(z)|〔s〕|c|r|cd|wz|🄯|a|b|c|d|e|f|g|h|i|j|k|l|m|n|o|p|q|r|s|t|u|v|w|x"),
  (0x1F148, "y|z|hv|mv|sd|ss|ppv|wc"),
  (0x1F16A, "mc|md|mr"),
  (0x1F190, "dj"),
  (0x1F200, "ほか|ココ|サ"),
  (0x1F210, "手|字|双|デ|二|多|解|天|交|映|無|料|前|後|再|新|初|終|生|販|声|吹|演|投|捕|一|三|遊|左|中|右|指|走|打|禁|空|合|満|有|月|申|割"),
  (0x1F23A, "営|配"),
  (0x1F240, "〔本〕|〔三〕|〔二〕|〔安〕|〔点〕|〔打〕|〔盗〕|〔勝〕|〔敗〕"),
  (0x1F250, "得|可"),
  (0x1FBF0, "0|1|2|3|4|5|6|7|8|9"),
  (0x2F800, "丽|丸|乁|𠄢|你|侮|侻|倂|偺|備|僧|像|㒞|𠘺|免|兔|兤|具|𠔜|㒹|內|再|𠕋|冗|冤|仌|冬|况|𩇟|凵|刃|㓟|刻|剆|割|剷|㔕|勇|勉|勤|勺|包"),
  (0x2F82A, "匆|北|卉|卑|博|即|卽|卿|卿|卿|𠨬|灰|及|叟|𠭣|叫|叱|吆|咞|吸|呈|周|咢|哶|唐|啓|啣|善|善|喙|喫|喳|嗂|圖|嘆|圗|噑|噴|切|壮|城|埴"),
  (0x2F854, "堍|型|堲|報|墬|𡓤|売|壷|夆|多|夢|奢|𡚨|𡛪|姬|娛|娧|姘|婦|㛮|㛼|嬈|嬾|嬾|𡧈|寃|寘|寧|寳|𡬘|寿|将|当|尢|㞁|屠|屮|峀|岍|𡷤|嵃|𡷦"),
  (0x2F87E, "嵮|嵫|嵼|巡|巢|㠯|巽|帨|帽|幩|㡢|𢆃|㡼|庰|庳|庶|廊|𪎒|廾|𢌱|𢌱|舁|弢|弢|㣇|𣊸|𦇚|形|彫|㣣|徚|忍|志|忹|悁|㤺|㤜|悔|𢛔|惇|慈|慌"),
  (0x2F8A8, "慎|慌|慺|憎|憲|憤|憯|懞|懲|懶|成|戛|扝|抱|拔|捐|𢬌|挽|拼|捨|掃|揤|𢯱|搢|揅|掩|㨮|摩|摾|撝|摷|㩬|敏|敬|𣀊|旣|書|晉|㬙|暑|㬈|㫤"),
  (0x2F8D2, "冒|冕|最|暜|肭|䏙|朗|望|朡|杞|杓|𣏃|㭉|柺|枅|桒|梅|𣑭|梎|栟|椔|㮝|楂|榣|槪|檨|𣚣|櫛|㰘|次|𣢧|歔|㱎|歲|殟|殺|殻|𣪍|𡴋|𣫺|汎|𣲼"),
  (0x2F8FC, "沿|泍|汧|洖|派|海|流|浩|浸|涅|𣴞|洴|港|湮|㴳|滋|滇|𣻑|淹|潮|𣽞|𣾎|濆|瀹|瀞|瀛|㶖|灊|災|灷|炭|𠔥|煅|𤉣|熜|𤎫|爨|爵|牐|𤘈|犀|犕"),
  (0x2F926, "𤜵|𤠔|獺|王|㺬|玥|㺸|㺸|瑇|瑜|瑱|璅|瓊|㼛|甤|𤰶|甾|𤲒|異|𢆟|瘐|𤾡|𤾸|𥁄|㿼|䀈|直|𥃳|𥃲|𥄙|𥄳|眞|真|真|睊|䀹|瞋|䁆|䂖|𥐝|硎|碌"),
  (0x2F950, "磌|䃣|𥘦|祖|𥚚|𥛅|福|秫|䄯|穀|穊|穏|𥥼|𥪧|𥪧|竮|䈂|𥮫|篆|築|䈧|𥲀|糒|䊠|糨|糣|紀|𥾆|絣|䌁|緇|縂|繅|䌴|𦈨|𦉇|䍙|𦋙|罺|𦌾|羕|翺"),
  (0x2F97A, "者|𦓚|𦔣|聠|𦖨|聰|𣍟|䏕|育|脃|䐋|脾|媵|𦞧|𦞵|𣎓|𣎜|舁|舄|辞|䑫|芑|芋|芝|劳|花|芳|芽|苦|𦬼|若|茝|荣|莭|茣|莽|菧|著|荓|菊|菌|菜"),
  (0x2F9A4, "𦰶|𦵫|𦳕|䔫|蓱|蓳|蔖|𧏊|蕤|𦼬|䕝|䕡|𦾱|𧃒|䕫|虐|虜|虧|虩|蚩|蚈|蜎|蛢|蝹|蜨|蝫|螆|䗗|蟡|蠁|䗹|衠|衣|𧙧|裗|裞|䘵|裺|㒻|𧢮|𧥦|䚾"),
  (0x2F9CE, "䛇|誠|諭|變|豕|𧲨|貫|賁|贛|起|𧼯|𠠄|跋|趼|跰|𠣞|軔|輸|𨗒|𨗭|邔|郱|鄑|𨜮|鄛|鈸|鋗|鋘|鉼|鏹|鐕|𨯺|開|䦕|閷|𨵷|䧦|雃|嶲|霣|𩅅|𩈚"),
  (0x2F9F8, "䩮|䩶|韠|𩐊|䪲|𩒖|頋|頋|頩|𩖶|飢|䬳|餩|馧|駂|駾|䯎|𩬰|鬒|鱀|鳽|䳎|䳭|鵧|𪃎|䳸|𪄅|𪈎|𪊑|麻|䵖|黹|黾|鼅|鼏|鼖|鼻|𪘀")]

/-- The piece at a place among pieces with bars between them. -/
def pieceAt? : Nat → List Char → Option (List Char)
  | 0, cs => some (cs.takeWhile (· ≠ '|'))
  | place + 1, cs =>
    match cs.dropWhile (· ≠ '|') with
    | [] => none
    | _ :: rest => pieceAt? place rest

/-- The form of a character in which names are compared. -/
def folded (c : Char) : List Char :=
  let n := c.toNat
  let wide := 0xFF01 ≤ n && n ≤ 0xFF5E
  if n < 0x80 then [c.toLower]
  else if wide then [(Char.ofNat (n - 0xFEE0)).toLower]
  else
    (foldings.findSome? fun (first, forms) =>
      if first ≤ n && n < first + 100 then pieceAt? (n - first) forms.toList else none).getD [c]

end Stencil
