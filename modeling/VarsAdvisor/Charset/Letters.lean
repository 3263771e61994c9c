/-!
# Charsets of one byte for each character

The characters of charsets whose lower half is ASCII, with a replacement character where a byte has
none. A charset has several names.
-/

namespace VarsAdvisor.Text

/-- A charset of one byte for each character: its names, its first byte that is no character of its
own number, and the characters from there on. -/
structure ByteCharset where
  names : List String
  start : Nat
  letters : String
  deriving Repr

/-- The characters of `cp1250` from `0x80` on. -/
def lettersCp1250 : String :=
  "€\uFFFD‚\uFFFD„…†‡\uFFFD‰Š‹ŚŤŽŹ\uFFFD‘’“”•–—\uFFFD™š›śťžź" ++
  "\u00A0ˇ˘Ł¤Ą¦§¨©Ş«¬\u00AD®Ż°±˛ł´µ¶·¸ąş»Ľ˝ľż" ++
  "ŔÁÂĂÄĹĆÇČÉĘËĚÍÎĎĐŃŇÓÔŐÖ×ŘŮÚŰÜÝŢß" ++
  "ŕáâăäĺćçčéęëěíîďđńňóôőö÷řůúűüýţ˙"

/-- The characters of `cp1251` from `0x80` on. -/
def lettersCp1251 : String :=
  "ЂЃ‚ѓ„…†‡€‰Љ‹ЊЌЋЏђ‘’“”•–—\uFFFD™љ›њќћџ" ++
  "\u00A0ЎўЈ¤Ґ¦§Ё©Є«¬\u00AD®Ї°±Ііґµ¶·ё№є»јЅѕї" ++
  "АБВГДЕЖЗИЙКЛМНОПРСТУФХЦЧШЩЪЫЬЭЮЯ" ++
  "абвгдежзийклмнопрстуфхцчшщъыьэюя"

/-- The characters of `cp1252` from `0x80` on. -/
def lettersCp1252 : String :=
  "€\uFFFD‚ƒ„…†‡ˆ‰Š‹Œ\uFFFDŽ\uFFFD\uFFFD‘’“”•–—˜™š›œ\uFFFDžŸ" ++
  "\u00A0¡¢£¤¥¦§¨©ª«¬\u00AD®¯°±²³´µ¶·¸¹º»¼½¾¿" ++
  "ÀÁÂÃÄÅÆÇÈÉÊËÌÍÎÏÐÑÒÓÔÕÖ×ØÙÚÛÜÝÞß" ++
  "àáâãäåæçèéêëìíîïðñòóôõö÷øùúûüýþÿ"

/-- The characters of `cp1253` from `0x80` on. -/
def lettersCp1253 : String :=
  "€\uFFFD‚ƒ„…†‡\uFFFD‰\uFFFD‹\uFFFD\uFFFD\uFFFD\uFFFD\uFFFD‘’“”•–—\uFFFD™\uFFFD›\uFFFD\uFFFD" ++
  "\uFFFD\uFFFD" ++
  "\u00A0΅Ά£¤¥¦§¨©\uFFFD«¬\u00AD®―°±²³΄µ¶·ΈΉΊ»Ό½ΎΏ" ++
  "ΐΑΒΓΔΕΖΗΘΙΚΛΜΝΞΟΠΡ\uFFFDΣΤΥΦΧΨΩΪΫάέήί" ++
  "ΰαβγδεζηθικλμνξοπρςστυφχψωϊϋόύώ\uFFFD"

/-- The characters of `cp1254` from `0x80` on. -/
def lettersCp1254 : String :=
  "€\uFFFD‚ƒ„…†‡ˆ‰Š‹Œ\uFFFD\uFFFD\uFFFD\uFFFD‘’“”•–—˜™š›œ\uFFFD\uFFFDŸ" ++
  "\u00A0¡¢£¤¥¦§¨©ª«¬\u00AD®¯°±²³´µ¶·¸¹º»¼½¾¿" ++
  "ÀÁÂÃÄÅÆÇÈÉÊËÌÍÎÏĞÑÒÓÔÕÖ×ØÙÚÛÜİŞß" ++
  "àáâãäåæçèéêëìíîïğñòóôõö÷øùúûüışÿ"

/-- The characters of `cp1255` from `0x80` on. -/
def lettersCp1255 : String :=
  "€\uFFFD‚ƒ„…†‡ˆ‰\uFFFD‹\uFFFD\uFFFD\uFFFD\uFFFD\uFFFD‘’“”•–—˜™\uFFFD›\uFFFD\uFFFD\uFFFD" ++
  "\uFFFD" ++
  "\u00A0¡¢£₪¥¦§¨©×«¬\u00AD®¯°±²³´µ¶·¸¹÷»¼½¾¿" ++
  "\u05B0\u05B1\u05B2\u05B3\u05B4\u05B5\u05B6\u05B7\u05B8\u05B9\uFFFD\u05BB\u05BC\u05BD\u05BE" ++
  "\u05BF\u05C0\u05C1\u05C2\u05C3\u05F0\u05F1\u05F2\u05F3\u05F4\uFFFD\uFFFD\uFFFD\uFFFD\uFFFD" ++
  "\uFFFD\uFFFD" ++
  "\u05D0\u05D1\u05D2\u05D3\u05D4\u05D5\u05D6\u05D7\u05D8\u05D9\u05DA\u05DB\u05DC\u05DD\u05DE" ++
  "\u05DF\u05E0\u05E1\u05E2\u05E3\u05E4\u05E5\u05E6\u05E7\u05E8\u05E9\u05EA\uFFFD\uFFFD\u200E" ++
  "\u200F\uFFFD"

/-- The characters of `cp1256` from `0x80` on. -/
def lettersCp1256 : String :=
  "€\u067E‚ƒ„…†‡ˆ‰\u0679‹Œ\u0686\u0698\u0688\u06AF‘’“”•–—\u06A9™\u0691›œ\u200C\u200D\u06BA" ++
  "\u00A0،¢£¤¥¦§¨©\u06BE«¬\u00AD®¯°±²³´µ¶·¸¹\u061B»¼½¾\u061F" ++
  "\u06C1\u0621\u0622\u0623\u0624\u0625\u0626\u0627\u0628\u0629\u062A\u062B\u062C\u062D\u062E" ++
  "\u062F\u0630\u0631\u0632\u0633\u0634\u0635\u0636×\u0637\u0638\u0639\u063A\u0640\u0641" ++
  "\u0642\u0643" ++
  "à\u0644â\u0645\u0646\u0647\u0648çèéêë\u0649\u064Aîï\u064B\u064C\u064D\u064Eô\u064F\u0650÷" ++
  "\u0651ù\u0652ûü\u200E\u200F\u06D2"

/-- The characters of `cp1257` from `0x80` on. -/
def lettersCp1257 : String :=
  "€\uFFFD‚\uFFFD„…†‡\uFFFD‰\uFFFD‹\uFFFD¨ˇ¸\uFFFD‘’“”•–—\uFFFD™\uFFFD›\uFFFD¯˛\uFFFD" ++
  "\u00A0\uFFFD¢£¤\uFFFD¦§Ø©Ŗ«¬\u00AD®Æ°±²³´µ¶·ø¹ŗ»¼½¾æ" ++
  "ĄĮĀĆÄÅĘĒČÉŹĖĢĶĪĻŠŃŅÓŌÕÖ×ŲŁŚŪÜŻŽß" ++
  "ąįāćäåęēčéźėģķīļšńņóōõö÷ųłśūüżž˙"

/-- The characters of `cp1258` from `0x80` on. -/
def lettersCp1258 : String :=
  "€\uFFFD‚ƒ„…†‡ˆ‰\uFFFD‹Œ\uFFFD\uFFFD\uFFFD\uFFFD‘’“”•–—˜™\uFFFD›œ\uFFFD\uFFFDŸ" ++
  "\u00A0¡¢£¤¥¦§¨©ª«¬\u00AD®¯°±²³´µ¶·¸¹º»¼½¾¿" ++
  "ÀÁÂĂÄÅÆÇÈÉÊË\u0300ÍÎÏĐÑ\u0309ÓÔƠÖ×ØÙÚÛÜƯ\u0303ß" ++
  "àáâăäåæçèéêë\u0301íîïđñ\u0323óôơö÷øùúûüư₫ÿ"

/-- The characters of `iso8859_2` from `0xA0` on. -/
def lettersIso88592 : String :=
  "\u00A0Ą˘Ł¤ĽŚ§¨ŠŞŤŹ\u00ADŽŻ°ą˛ł´ľśˇ¸šşťź˝žż" ++
  "ŔÁÂĂÄĹĆÇČÉĘËĚÍÎĎĐŃŇÓÔŐÖ×ŘŮÚŰÜÝŢß" ++
  "ŕáâăäĺćçčéęëěíîďđńňóôőö÷řůúűüýţ˙"

/-- The characters of `iso8859_3` from `0xA0` on. -/
def lettersIso88593 : String :=
  "\u00A0Ħ˘£¤\uFFFDĤ§¨İŞĞĴ\u00AD\uFFFDŻ°ħ²³´µĥ·¸ışğĵ½\uFFFDż" ++
  "ÀÁÂ\uFFFDÄĊĈÇÈÉÊËÌÍÎÏ\uFFFDÑÒÓÔĠÖ×ĜÙÚÛÜŬŜß" ++
  "àáâ\uFFFDäċĉçèéêëìíîï\uFFFDñòóôġö÷ĝùúûüŭŝ˙"

/-- The characters of `iso8859_4` from `0xA0` on. -/
def lettersIso88594 : String :=
  "\u00A0ĄĸŖ¤ĨĻ§¨ŠĒĢŦ\u00ADŽ¯°ą˛ŗ´ĩļˇ¸šēģŧŊžŋ" ++
  "ĀÁÂÃÄÅÆĮČÉĘËĖÍÎĪĐŅŌĶÔÕÖ×ØŲÚÛÜŨŪß" ++
  "āáâãäåæįčéęëėíîīđņōķôõö÷øųúûüũū˙"

/-- The characters of `iso8859_5` from `0xA0` on. -/
def lettersIso88595 : String :=
  "\u00A0ЁЂЃЄЅІЇЈЉЊЋЌ\u00ADЎЏАБВГДЕЖЗИЙКЛМНОП" ++
  "РСТУФХЦЧШЩЪЫЬЭЮЯабвгдежзийклмноп" ++
  "рстуфхцчшщъыьэюя№ёђѓєѕіїјљњћќ§ўџ"

/-- The characters of `iso8859_6` from `0xA0` on. -/
def lettersIso88596 : String :=
  "\u00A0\uFFFD\uFFFD\uFFFD¤\uFFFD\uFFFD\uFFFD\uFFFD\uFFFD\uFFFD\uFFFD،\u00AD\uFFFD\uFFFD" ++
  "\uFFFD\uFFFD\uFFFD\uFFFD\uFFFD\uFFFD\uFFFD\uFFFD\uFFFD\uFFFD\uFFFD\u061B\uFFFD\uFFFD\uFFFD" ++
  "\u061F" ++
  "\uFFFD\u0621\u0622\u0623\u0624\u0625\u0626\u0627\u0628\u0629\u062A\u062B\u062C\u062D\u062E" ++
  "\u062F\u0630\u0631\u0632\u0633\u0634\u0635\u0636\u0637\u0638\u0639\u063A\uFFFD\uFFFD\uFFFD" ++
  "\uFFFD\uFFFD" ++
  "\u0640\u0641\u0642\u0643\u0644\u0645\u0646\u0647\u0648\u0649\u064A\u064B\u064C\u064D\u064E" ++
  "\u064F\u0650\u0651\u0652\uFFFD\uFFFD\uFFFD\uFFFD\uFFFD\uFFFD\uFFFD\uFFFD\uFFFD\uFFFD\uFFFD" ++
  "\uFFFD\uFFFD"

/-- The characters of `iso8859_7` from `0xA0` on. -/
def lettersIso88597 : String :=
  "\u00A0‘’£€₯¦§¨©ͺ«¬\u00AD\uFFFD―°±²³΄΅Ά·ΈΉΊ»Ό½ΎΏ" ++
  "ΐΑΒΓΔΕΖΗΘΙΚΛΜΝΞΟΠΡ\uFFFDΣΤΥΦΧΨΩΪΫάέήί" ++
  "ΰαβγδεζηθικλμνξοπρςστυφχψωϊϋόύώ\uFFFD"

/-- The characters of `iso8859_8` from `0xA0` on. -/
def lettersIso88598 : String :=
  "\u00A0\uFFFD¢£¤¥¦§¨©×«¬\u00AD®¯°±²³´µ¶·¸¹÷»¼½¾\uFFFD" ++
  "\uFFFD\uFFFD\uFFFD\uFFFD\uFFFD\uFFFD\uFFFD\uFFFD\uFFFD\uFFFD\uFFFD\uFFFD\uFFFD\uFFFD\uFFFD" ++
  "\uFFFD\uFFFD\uFFFD\uFFFD\uFFFD\uFFFD\uFFFD\uFFFD\uFFFD\uFFFD\uFFFD\uFFFD\uFFFD\uFFFD\uFFFD" ++
  "\uFFFD‗" ++
  "\u05D0\u05D1\u05D2\u05D3\u05D4\u05D5\u05D6\u05D7\u05D8\u05D9\u05DA\u05DB\u05DC\u05DD\u05DE" ++
  "\u05DF\u05E0\u05E1\u05E2\u05E3\u05E4\u05E5\u05E6\u05E7\u05E8\u05E9\u05EA\uFFFD\uFFFD\u200E" ++
  "\u200F\uFFFD"

/-- The characters of `iso8859_9` from `0xA0` on. -/
def lettersIso88599 : String :=
  "\u00A0¡¢£¤¥¦§¨©ª«¬\u00AD®¯°±²³´µ¶·¸¹º»¼½¾¿" ++
  "ÀÁÂÃÄÅÆÇÈÉÊËÌÍÎÏĞÑÒÓÔÕÖ×ØÙÚÛÜİŞß" ++
  "àáâãäåæçèéêëìíîïğñòóôõö÷øùúûüışÿ"

/-- The characters of `iso8859_10` from `0xA0` on. -/
def lettersIso885910 : String :=
  "\u00A0ĄĒĢĪĨĶ§ĻĐŠŦŽ\u00ADŪŊ°ąēģīĩķ·ļđšŧž―ūŋ" ++
  "ĀÁÂÃÄÅÆĮČÉĘËĖÍÎÏÐŅŌÓÔÕÖŨØŲÚÛÜÝÞß" ++
  "āáâãäåæįčéęëėíîïðņōóôõöũøųúûüýþĸ"

/-- The characters of `iso8859_11` from `0xA0` on. -/
def lettersIso885911 : String :=
  "\u00A0กขฃคฅฆงจฉชซฌญฎฏฐฑฒณดตถทธนบปผฝพฟ" ++
  "ภมยรฤลฦวศษสหฬอฮฯะ\u0E31าำ\u0E34\u0E35\u0E36\u0E37\u0E38\u0E39\u0E3A\uFFFD\uFFFD\uFFFD" ++
  "\uFFFD฿" ++
  "เแโใไๅๆ\u0E47\u0E48\u0E49\u0E4A\u0E4B\u0E4C\u0E4D\u0E4E๏๐๑๒๓๔๕๖๗๘๙๚๛\uFFFD\uFFFD\uFFFD" ++
  "\uFFFD"

/-- The characters of `iso8859_13` from `0xA0` on. -/
def lettersIso885913 : String :=
  "\u00A0”¢£¤„¦§Ø©Ŗ«¬\u00AD®Æ°±²³“µ¶·ø¹ŗ»¼½¾æ" ++
  "ĄĮĀĆÄÅĘĒČÉŹĖĢĶĪĻŠŃŅÓŌÕÖ×ŲŁŚŪÜŻŽß" ++
  "ąįāćäåęēčéźėģķīļšńņóōõö÷ųłśūüżž’"

/-- The characters of `iso8859_14` from `0xA0` on. -/
def lettersIso885914 : String :=
  "\u00A0Ḃḃ£ĊċḊ§Ẁ©ẂḋỲ\u00AD®ŸḞḟĠġṀṁ¶ṖẁṗẃṠỳẄẅṡ" ++
  "ÀÁÂÃÄÅÆÇÈÉÊËÌÍÎÏŴÑÒÓÔÕÖṪØÙÚÛÜÝŶß" ++
  "àáâãäåæçèéêëìíîïŵñòóôõöṫøùúûüýŷÿ"

/-- The characters of `iso8859_15` from `0xA0` on. -/
def lettersIso885915 : String :=
  "\u00A0¡¢£€¥Š§š©ª«¬\u00AD®¯°±²³Žµ¶·ž¹º»ŒœŸ¿" ++
  "ÀÁÂÃÄÅÆÇÈÉÊËÌÍÎÏÐÑÒÓÔÕÖ×ØÙÚÛÜÝÞß" ++
  "àáâãäåæçèéêëìíîïðñòóôõö÷øùúûüýþÿ"

/-- The characters of `iso8859_16` from `0xA0` on. -/
def lettersIso885916 : String :=
  "\u00A0ĄąŁ€„Š§š©Ș«Ź\u00ADźŻ°±ČłŽ”¶·žčș»ŒœŸż" ++
  "ÀÁÂĂÄĆÆÇÈÉÊËÌÍÎÏĐŃÒÓÔŐÖŚŰÙÚÛÜĘȚß" ++
  "àáâăäćæçèéêëìíîïđńòóôőöśűùúûüęțÿ"

/-- The characters of `koi8_r` from `0x80` on. -/
def lettersKoi8R : String :=
  "─│┌┐└┘├┤┬┴┼▀▄█▌▐░▒▓⌠■∙√≈≤≥\u00A0⌡°²·÷" ++
  "═║╒ё╓╔╕╖╗╘╙╚╛╜╝╞╟╠╡Ё╢╣╤╥╦╧╨╩╪╫╬©" ++
  "юабцдефгхийклмнопярстужвьызшэщчъ" ++
  "ЮАБЦДЕФГХИЙКЛМНОПЯРСТУЖВЬЫЗШЭЩЧЪ"

/-- The characters of `koi8_u` from `0x80` on. -/
def lettersKoi8U : String :=
  "─│┌┐└┘├┤┬┴┼▀▄█▌▐░▒▓⌠■∙√≈≤≥\u00A0⌡°²·÷" ++
  "═║╒ёє╔ії╗╘╙╚╛ґ╝╞╟╠╡ЁЄ╣ІЇ╦╧╨╩╪Ґ╬©" ++
  "юабцдефгхийклмнопярстужвьызшэщчъ" ++
  "ЮАБЦДЕФГХИЙКЛМНОПЯРСТУЖВЬЫЗШЭЩЧЪ"

/-- The characters of `mac_roman` from `0x80` on. -/
def lettersMacRoman : String :=
  "ÄÅÇÉÑÖÜáàâäãåçéèêëíìîïñóòôöõúùûü" ++
  "†°¢£§•¶ß®©™´¨≠ÆØ∞±≤≥¥µ∂∑∏π∫ªºΩæø" ++
  "¿¡¬√ƒ≈∆«»…\u00A0ÀÃÕŒœ–—“”‘’÷◊ÿŸ⁄€‹›ﬁﬂ" ++
  "‡·‚„‰ÂÊÁËÈÍÎÏÌÓÔ\uF8FFÒÚÛÙıˆ˜¯˘˙˚¸˝˛ˇ"

/-- The characters of `mac_cyrillic` from `0x80` on. -/
def lettersMacCyrillic : String :=
  "АБВГДЕЖЗИЙКЛМНОПРСТУФХЦЧШЩЪЫЬЭЮЯ" ++
  "†°Ґ£§•¶І®©™Ђђ≠Ѓѓ∞±≤≥іµґЈЄєЇїЉљЊњ" ++
  "јЅ¬√ƒ≈∆«»…\u00A0ЋћЌќѕ–—“”‘’÷„ЎўЏџ№Ёёя" ++
  "абвгдежзийклмнопрстуфхцчшщъыьэю€"

/-- The characters of `cp437` from `0x80` on. -/
def lettersCp437 : String :=
  "ÇüéâäàåçêëèïîìÄÅÉæÆôöòûùÿÖÜ¢£¥₧ƒ" ++
  "áíóúñÑªº¿⌐¬½¼¡«»░▒▓│┤╡╢╖╕╣║╗╝╜╛┐" ++
  "└┴┬├─┼╞╟╚╔╩╦╠═╬╧╨╤╥╙╘╒╓╫╪┘┌█▄▌▐▀" ++
  "αßΓπΣσµτΦΘΩδ∞φε∩≡±≥≤⌠⌡÷≈°∙·√ⁿ²■\u00A0"

/-- The characters of `cp850` from `0x80` on. -/
def lettersCp850 : String :=
  "ÇüéâäàåçêëèïîìÄÅÉæÆôöòûùÿÖÜø£Ø×ƒ" ++
  "áíóúñÑªº¿®¬½¼¡«»░▒▓│┤ÁÂÀ©╣║╗╝¢¥┐" ++
  "└┴┬├─┼ãÃ╚╔╩╦╠═╬¤ðÐÊËÈıÍÎÏ┘┌█▄¦Ì▀" ++
  "ÓßÔÒõÕµþÞÚÛÙýÝ¯´\u00AD±‗¾¶§÷¸°¨·¹³²■\u00A0"

/-- The characters of `cp852` from `0x80` on. -/
def lettersCp852 : String :=
  "ÇüéâäůćçłëŐőîŹÄĆÉĹĺôöĽľŚśÖÜŤťŁ×č" ++
  "áíóúĄąŽžĘę¬źČş«»░▒▓│┤ÁÂĚŞ╣║╗╝Żż┐" ++
  "└┴┬├─┼Ăă╚╔╩╦╠═╬¤đĐĎËďŇÍÎě┘┌█▄ŢŮ▀" ++
  "ÓßÔŃńňŠšŔÚŕŰýÝţ´\u00AD˝˛ˇ˘§÷¸°¨˙űŘř■\u00A0"

/-- The characters of `cp855` from `0x80` on. -/
def lettersCp855 : String :=
  "ђЂѓЃёЁєЄѕЅіІїЇјЈљЉњЊћЋќЌўЎџЏюЮъЪ" ++
  "аАбБцЦдДеЕфФгГ«»░▒▓│┤хХиИ╣║╗╝йЙ┐" ++
  "└┴┬├─┼кК╚╔╩╦╠═╬¤лЛмМнНоОп┘┌█▄Пя▀" ++
  "ЯрРсСтТуУжЖвВьЬ№\u00ADыЫзЗшШэЭщЩчЧ§■\u00A0"

/-- The characters of `cp866` from `0x80` on. -/
def lettersCp866 : String :=
  "АБВГДЕЖЗИЙКЛМНОПРСТУФХЦЧШЩЪЫЬЭЮЯ" ++
  "абвгдежзийклмноп░▒▓│┤╡╢╖╕╣║╗╝╜╛┐" ++
  "└┴┬├─┼╞╟╚╔╩╦╠═╬╧╨╤╥╙╘╒╓╫╪┘┌█▄▌▐▀" ++
  "рстуфхцчшщъыьэюяЁёЄєЇїЎў°∙·√№¤■\u00A0"

/-- The characters of `cp874` from `0x80` on. -/
def lettersCp874 : String :=
  "€\uFFFD\uFFFD\uFFFD\uFFFD…\uFFFD\uFFFD\uFFFD\uFFFD\uFFFD\uFFFD\uFFFD\uFFFD\uFFFD\uFFFD" ++
  "\uFFFD‘’“”•–—\uFFFD\uFFFD\uFFFD\uFFFD\uFFFD\uFFFD\uFFFD\uFFFD" ++
  "\u00A0กขฃคฅฆงจฉชซฌญฎฏฐฑฒณดตถทธนบปผฝพฟ" ++
  "ภมยรฤลฦวศษสหฬอฮฯะ\u0E31าำ\u0E34\u0E35\u0E36\u0E37\u0E38\u0E39\u0E3A\uFFFD\uFFFD\uFFFD" ++
  "\uFFFD฿" ++
  "เแโใไๅๆ\u0E47\u0E48\u0E49\u0E4A\u0E4B\u0E4C\u0E4D\u0E4E๏๐๑๒๓๔๕๖๗๘๙๚๛\uFFFD\uFFFD\uFFFD" ++
  "\uFFFD"

/-- The characters of `tis_620` from `0xA0` on. -/
def lettersTis620 : String :=
  "\uFFFDกขฃคฅฆงจฉชซฌญฎฏฐฑฒณดตถทธนบปผฝพฟ" ++
  "ภมยรฤลฦวศษสหฬอฮฯะ\u0E31าำ\u0E34\u0E35\u0E36\u0E37\u0E38\u0E39\u0E3A\uFFFD\uFFFD\uFFFD" ++
  "\uFFFD฿" ++
  "เแโใไๅๆ\u0E47\u0E48\u0E49\u0E4A\u0E4B\u0E4C\u0E4D\u0E4E๏๐๑๒๓๔๕๖๗๘๙๚๛\uFFFD\uFFFD\uFFFD" ++
  "\uFFFD"

/-- The charsets. -/
def byteCharsets : List ByteCharset := [
  ⟨["1250", "cp1250", "windows_1250"], 0x80, lettersCp1250⟩,
  ⟨["1251", "cp1251", "windows_1251"], 0x80, lettersCp1251⟩,
  ⟨["1252", "cp1252", "windows_1252"], 0x80, lettersCp1252⟩,
  ⟨["1253", "cp1253", "windows_1253"], 0x80, lettersCp1253⟩,
  ⟨["1254", "cp1254", "windows_1254"], 0x80, lettersCp1254⟩,
  ⟨["1255", "cp1255", "windows_1255"], 0x80, lettersCp1255⟩,
  ⟨["1256", "cp1256", "windows_1256"], 0x80, lettersCp1256⟩,
  ⟨["1257", "cp1257", "windows_1257"], 0x80, lettersCp1257⟩,
  ⟨["1258", "cp1258", "windows_1258"], 0x80, lettersCp1258⟩,
  ⟨["csisolatin2", "iso8859_2", "iso_8859_2", "iso_8859_2_1987", "iso_ir_101", "l2", "latin2"],
    0xa0, lettersIso88592⟩,
  ⟨["csisolatin3", "iso8859_3", "iso_8859_3", "iso_8859_3_1988", "iso_ir_109", "l3", "latin3"],
    0xa0, lettersIso88593⟩,
  ⟨["csisolatin4", "iso8859_4", "iso_8859_4", "iso_8859_4_1988", "iso_ir_110", "l4", "latin4"],
    0xa0, lettersIso88594⟩,
  ⟨["csisolatincyrillic", "cyrillic", "iso8859_5", "iso_8859_5", "iso_8859_5_1988",
    "iso_ir_144"], 0xa0, lettersIso88595⟩,
  ⟨["arabic", "asmo_708", "csisolatinarabic", "ecma_114", "iso8859_6", "iso_8859_6",
    "iso_8859_6_1987", "iso_ir_127"], 0xa0, lettersIso88596⟩,
  ⟨["csisolatingreek", "ecma_118", "elot_928", "greek", "greek8", "iso8859_7", "iso_8859_7",
    "iso_8859_7_1987", "iso_ir_126"], 0xa0, lettersIso88597⟩,
  ⟨["csisolatinhebrew", "hebrew", "iso8859_8", "iso_8859_8", "iso_8859_8_1988", "iso_ir_138"],
    0xa0, lettersIso88598⟩,
  ⟨["csisolatin5", "iso8859_9", "iso_8859_9", "iso_8859_9_1989", "iso_ir_148", "l5", "latin5"],
    0xa0, lettersIso88599⟩,
  ⟨["csisolatin6", "iso8859_10", "iso_8859_10", "iso_8859_10_1992", "iso_ir_157", "l6",
    "latin6"], 0xa0, lettersIso885910⟩,
  ⟨["iso8859_11", "iso_8859_11", "iso_8859_11_2001", "thai"], 0xa0, lettersIso885911⟩,
  ⟨["iso8859_13", "iso_8859_13", "l7", "latin7"], 0xa0, lettersIso885913⟩,
  ⟨["iso8859_14", "iso_8859_14", "iso_8859_14_1998", "iso_celtic", "iso_ir_199", "l8",
    "latin8"], 0xa0, lettersIso885914⟩,
  ⟨["iso8859_15", "iso_8859_15", "l9", "latin9"], 0xa0, lettersIso885915⟩,
  ⟨["iso8859_16", "iso_8859_16", "iso_8859_16_2001", "iso_ir_226", "l10", "latin10"], 0xa0,
    lettersIso885916⟩,
  ⟨["cskoi8r", "koi8_r"], 0x80, lettersKoi8R⟩,
  ⟨["koi8_u"], 0x80, lettersKoi8U⟩,
  ⟨["mac_roman", "macintosh", "macroman"], 0x80, lettersMacRoman⟩,
  ⟨["mac_cyrillic", "maccyrillic"], 0x80, lettersMacCyrillic⟩,
  ⟨["437", "cp437", "cspc8codepage437", "ibm437"], 0x80, lettersCp437⟩,
  ⟨["850", "cp850", "cspc850multilingual", "ibm850"], 0x80, lettersCp850⟩,
  ⟨["852", "cp852", "cspcp852", "ibm852"], 0x80, lettersCp852⟩,
  ⟨["855", "cp855", "csibm855", "ibm855"], 0x80, lettersCp855⟩,
  ⟨["866", "cp866", "csibm866", "ibm866"], 0x80, lettersCp866⟩,
  ⟨["cp874"], 0x80, lettersCp874⟩,
  ⟨["iso_ir_166", "tis620", "tis_620", "tis_620_0", "tis_620_2529_0", "tis_620_2529_1"], 0xa0,
    lettersTis620⟩]

end VarsAdvisor.Text
