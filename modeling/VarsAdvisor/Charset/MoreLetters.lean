import VarsAdvisor.Charset.Letters

/-!
# More charsets of one byte for each character

The code pages of older systems, and those whose lower half is not ASCII.
-/

namespace VarsAdvisor.Text

/-- The characters of `cp720` from `0x80` on. -/
def lettersCp720 : String :=
  "\u0080\u0081éâ\u0084à\u0086çêëèïî\u008D\u008E\u008F\u0090\u0651\u0652ô¤\u0640ûù\u0621" ++
  "\u0622\u0623\u0624£\u0625\u0626\u0627\u0628\u0629\u062A\u062B\u062C\u062D\u062E\u062F" ++
  "\u0630\u0631\u0632\u0633\u0634\u0635«»░▒▓│┤╡╢╖╕╣║╗╝╜╛┐└┴┬├─┼╞╟╚╔╩╦╠═╬╧╨╤╥╙╘╒╓╫╪┘┌█▄▌▐▀" ++
  "\u0636\u0637\u0638\u0639\u063A\u0641µ\u0642\u0643\u0644\u0645\u0646\u0647\u0648\u0649" ++
  "\u064A≡\u064B\u064C\u064D\u064E\u064F\u0650≈°∙·√ⁿ²■\u00A0"

/-- The characters of `cp737` from `0x80` on. -/
def lettersCp737 : String :=
  "ΑΒΓΔΕΖΗΘΙΚΛΜΝΞΟΠΡΣΤΥΦΧΨΩαβγδεζηθικλμνξοπρσςτυφχψ░▒▓│┤╡╢╖╕╣║╗╝╜╛┐└┴┬├─┼╞╟╚╔╩╦╠═╬╧╨╤╥╙╘╒╓╫╪┘" ++
  "┌█▄▌▐▀ωάέήϊίόύϋώΆΈΉΊΌΎΏ±≥≤ΪΫ÷≈°∙·√ⁿ²■\u00A0"

/-- The characters of `cp775` from `0x80` on. -/
def lettersCp775 : String :=
  "ĆüéāäģåćłēŖŗīŹÄÅÉæÆōöĢ¢ŚśÖÜø£Ø×¤ĀĪóŻżź”¦©®¬½¼Ł«»░▒▓│┤ĄČĘĖ╣║╗╝ĮŠ┐└┴┬├─┼ŲŪ╚╔╩╦╠═╬Žąčęėįšųūž┘" ++
  "┌█▄▌▐▀ÓßŌŃõÕµńĶķĻļņĒŅ’\u00AD±“¾¶§÷„°∙·¹³²■\u00A0"

/-- The characters of `cp856` from `0x80` on. -/
def lettersCp856 : String :=
  "\u05D0\u05D1\u05D2\u05D3\u05D4\u05D5\u05D6\u05D7\u05D8\u05D9\u05DA\u05DB\u05DC\u05DD\u05DE" ++
  "\u05DF\u05E0\u05E1\u05E2\u05E3\u05E4\u05E5\u05E6\u05E7\u05E8\u05E9\u05EA\uFFFD£\uFFFD×" ++
  "\uFFFD\uFFFD\uFFFD\uFFFD\uFFFD\uFFFD\uFFFD\uFFFD\uFFFD\uFFFD®¬½¼\uFFFD«»░▒▓│┤\uFFFD\uFFFD" ++
  "\uFFFD©╣║╗╝¢¥┐└┴┬├─┼\uFFFD\uFFFD╚╔╩╦╠═╬¤\uFFFD\uFFFD\uFFFD\uFFFD\uFFFD\uFFFD\uFFFD\uFFFD" ++
  "\uFFFD┘┌█▄¦\uFFFD▀\uFFFD\uFFFD\uFFFD\uFFFD\uFFFD\uFFFDµ\uFFFD\uFFFD\uFFFD\uFFFD\uFFFD" ++
  "\uFFFD\uFFFD¯´\u00AD±‗¾¶§÷¸°¨·¹³²■\u00A0"

/-- The characters of `cp857` from `0x80` on. -/
def lettersCp857 : String :=
  "ÇüéâäàåçêëèïîıÄÅÉæÆôöòûùİÖÜø£ØŞşáíóúñÑĞğ¿®¬½¼¡«»░▒▓│┤ÁÂÀ©╣║╗╝¢¥┐└┴┬├─┼ãÃ╚╔╩╦╠═╬¤ºªÊËÈ" ++
  "\uFFFDÍÎÏ┘┌█▄¦Ì▀ÓßÔÒõÕµ\uFFFD×ÚÛÙìÿ¯´\u00AD±\uFFFD¾¶§÷¸°¨·¹³²■\u00A0"

/-- The characters of `cp858` from `0x80` on. -/
def lettersCp858 : String :=
  "ÇüéâäàåçêëèïîìÄÅÉæÆôöòûùÿÖÜø£Ø×ƒáíóúñÑªº¿®¬½¼¡«»░▒▓│┤ÁÂÀ©╣║╗╝¢¥┐└┴┬├─┼ãÃ╚╔╩╦╠═╬¤ðÐÊËÈ€ÍÎÏ┘" ++
  "┌█▄¦Ì▀ÓßÔÒõÕµþÞÚÛÙýÝ¯´\u00AD±‗¾¶§÷¸°¨·¹³²■\u00A0"

/-- The characters of `cp860` from `0x80` on. -/
def lettersCp860 : String :=
  "ÇüéâãàÁçêÊèÍÔìÃÂÉÀÈôõòÚùÌÕÜ¢£Ù₧ÓáíóúñÑªº¿Ò¬½¼¡«»░▒▓│┤╡╢╖╕╣║╗╝╜╛┐└┴┬├─┼╞╟╚╔╩╦╠═╬╧╨╤╥╙╘╒╓╫╪┘" ++
  "┌█▄▌▐▀αßΓπΣσµτΦΘΩδ∞φε∩≡±≥≤⌠⌡÷≈°∙·√ⁿ²■\u00A0"

/-- The characters of `cp861` from `0x80` on. -/
def lettersCp861 : String :=
  "ÇüéâäàåçêëèÐðÞÄÅÉæÆôöþûÝýÖÜø£Ø₧ƒáíóúÁÍÓÚ¿⌐¬½¼¡«»░▒▓│┤╡╢╖╕╣║╗╝╜╛┐└┴┬├─┼╞╟╚╔╩╦╠═╬╧╨╤╥╙╘╒╓╫╪┘" ++
  "┌█▄▌▐▀αßΓπΣσµτΦΘΩδ∞φε∩≡±≥≤⌠⌡÷≈°∙·√ⁿ²■\u00A0"

/-- The characters of `cp862` from `0x80` on. -/
def lettersCp862 : String :=
  "\u05D0\u05D1\u05D2\u05D3\u05D4\u05D5\u05D6\u05D7\u05D8\u05D9\u05DA\u05DB\u05DC\u05DD\u05DE" ++
  "\u05DF\u05E0\u05E1\u05E2\u05E3\u05E4\u05E5\u05E6\u05E7\u05E8\u05E9\u05EA¢£¥₧ƒáíóúñÑªº¿⌐¬½¼" ++
  "¡«»░▒▓│┤╡╢╖╕╣║╗╝╜╛┐└┴┬├─┼╞╟╚╔╩╦╠═╬╧╨╤╥╙╘╒╓╫╪┘┌█▄▌▐▀αßΓπΣσµτΦΘΩδ∞φε∩≡±≥≤⌠⌡÷≈°∙·√ⁿ²■\u00A0"

/-- The characters of `cp863` from `0x80` on. -/
def lettersCp863 : String :=
  "ÇüéâÂà¶çêëèïî‗À§ÉÈÊôËÏûù¤ÔÜ¢£ÙÛƒ¦´óú¨¸³¯Î⌐¬½¼¾«»░▒▓│┤╡╢╖╕╣║╗╝╜╛┐└┴┬├─┼╞╟╚╔╩╦╠═╬╧╨╤╥╙╘╒╓╫╪┘" ++
  "┌█▄▌▐▀αßΓπΣσµτΦΘΩδ∞φε∩≡±≥≤⌠⌡÷≈°∙·√ⁿ²■\u00A0"

/-- The characters of `cp864` from `0x00` on. -/
def lettersCp864 : String :=
  "\x00\x01\x02\x03\x04\x05\x06\x07\x08\x09\x0a\x0b\x0c\x0d\x0e\x0f\x10\x11\x12\x13\x14\x15" ++
  "\x16\x17\x18\x19\x1a\x1b\x1c\x1d\x1e\x1f !\"#$٪&'()*+,-./0123456789:;<=>?@ABCDEFGHIJKLMNOP" ++
  "QRSTUVWXYZ[\\]^_`abcdefghijklmnopqrstuvwxyz\x7b|\x7d~\x7f°·∙√▒─│┼┤┬├┴┐┌└┘β∞φ±½¼≈«»\uFEF7" ++
  "\uFEF8\uFFFD\uFFFD\uFEFB\uFEFC\uFFFD\u00A0\u00AD\uFE82£¤\uFE84\uFFFD\uFFFD\uFE8E\uFE8F" ++
  "\uFE95\uFE99،\uFE9D\uFEA1\uFEA5٠١٢٣٤٥٦٧٨٩\uFED1\u061B\uFEB1\uFEB5\uFEB9\u061F¢\uFE80\uFE81" ++
  "\uFE83\uFE85\uFECA\uFE8B\uFE8D\uFE91\uFE93\uFE97\uFE9B\uFE9F\uFEA3\uFEA7\uFEA9\uFEAB\uFEAD" ++
  "\uFEAF\uFEB3\uFEB7\uFEBB\uFEBF\uFEC1\uFEC5\uFECB\uFECF¦¬÷×\uFEC9\u0640\uFED3\uFED7\uFEDB" ++
  "\uFEDF\uFEE3\uFEE7\uFEEB\uFEED\uFEEF\uFEF3\uFEBD\uFECC\uFECE\uFECD\uFEE1\uFE7D\u0651\uFEE5" ++
  "\uFEE9\uFEEC\uFEF0\uFEF2\uFED0\uFED5\uFEF5\uFEF6\uFEDD\uFED9\uFEF1■\uFFFD"

/-- The characters of `cp865` from `0x80` on. -/
def lettersCp865 : String :=
  "ÇüéâäàåçêëèïîìÄÅÉæÆôöòûùÿÖÜø£Ø₧ƒáíóúñÑªº¿⌐¬½¼¡«¤░▒▓│┤╡╢╖╕╣║╗╝╜╛┐└┴┬├─┼╞╟╚╔╩╦╠═╬╧╨╤╥╙╘╒╓╫╪┘" ++
  "┌█▄▌▐▀αßΓπΣσµτΦΘΩδ∞φε∩≡±≥≤⌠⌡÷≈°∙·√ⁿ²■\u00A0"

/-- The characters of `cp869` from `0x80` on. -/
def lettersCp869 : String :=
  "\uFFFD\uFFFD\uFFFD\uFFFD\uFFFD\uFFFDΆ\uFFFD·¬¦‘’Έ―ΉΊΪΌ\uFFFD\uFFFDΎΫ©Ώ²³ά£έήίϊΐόύΑΒΓΔΕΖΗ½Θ" ++
  "Ι«»░▒▓│┤ΚΛΜΝ╣║╗╝ΞΟ┐└┴┬├─┼ΠΡ╚╔╩╦╠═╬ΣΤΥΦΧΨΩαβγ┘┌█▄δε▀ζηθικλμνξοπρσςτ΄\u00AD±υφχ§ψ΅°¨ωϋΰώ■" ++
  "\u00A0"

/-- The characters of `cp1006` from `0xA0` on. -/
def lettersCp1006 : String :=
  "\u00A0۰۱۲۳۴۵۶۷۸۹،\u061B\u00AD\u061F\uFE81\uFE8D\uFE8E\uFE8E\uFE8F\uFE91\uFB56\uFB58\uFE93" ++
  "\uFE95\uFE97\uFB66\uFB68\uFE99\uFE9B\uFE9D\uFE9F\uFB7A\uFB7C\uFEA1\uFEA3\uFEA5\uFEA7\uFEA9" ++
  "\uFB84\uFEAB\uFEAD\uFB8C\uFEAF\uFB8A\uFEB1\uFEB3\uFEB5\uFEB7\uFEB9\uFEBB\uFEBD\uFEBF\uFEC1" ++
  "\uFEC5\uFEC9\uFECA\uFECB\uFECC\uFECD\uFECE\uFECF\uFED0\uFED1\uFED3\uFED5\uFED7\uFED9\uFEDB" ++
  "\uFB92\uFB94\uFEDD\uFEDF\uFEE0\uFEE1\uFEE3\uFB9E\uFEE5\uFEE7\uFE85\uFEED\uFBA6\uFBA8\uFBA9" ++
  "\uFBAA\uFE80\uFE89\uFE8A\uFE8B\uFEF1\uFEF2\uFEF3\uFBB0\uFBAE\uFE7C\uFE7D"

/-- The characters of `cp1125` from `0x80` on. -/
def lettersCp1125 : String :=
  "АБВГДЕЖЗИЙКЛМНОПРСТУФХЦЧШЩЪЫЬЭЮЯабвгдежзийклмноп░▒▓│┤╡╢╖╕╣║╗╝╜╛┐└┴┬├─┼╞╟╚╔╩╦╠═╬╧╨╤╥╙╘╒╓╫╪┘" ++
  "┌█▄▌▐▀рстуфхцчшщъыьэюяЁёҐґЄєІіЇї·√№¤■\u00A0"

/-- The characters of `hp_roman8` from `0xA0` on. -/
def lettersHpRoman8 : String :=
  "\u00A0ÀÂÈÊËÎÏ´ˋˆ¨˜ÙÛ₤¯Ýý°ÇçÑñ¡¿¤£¥§ƒ¢âêôûáéóúàèòùäëöüÅîØÆåíøæÄìÖÜÉïßÔÁÃãÐðÍÌÓÒÕõŠšÚŸÿÞþ·µ¶" ++
  "¾—¼½ªº«■»±\uFFFD"

/-- The characters of `koi8_t` from `0x80` on. -/
def lettersKoi8T : String :=
  "қғ‚Ғ„…†‡\uFFFD‰ҳ‹ҲҷҶ\uFFFDҚ‘’“”•–—\uFFFD™\uFFFD›\uFFFD\uFFFD\uFFFD\uFFFD\uFFFDӯӮё¤ӣ¦§" ++
  "\uFFFD\uFFFD\uFFFD«¬\u00AD®\uFFFD°±²Ё\uFFFDӢ¶·\uFFFD№\uFFFD»\uFFFD\uFFFD\uFFFD©юабцдефгхий" ++
  "клмнопярстужвьызшэщчъЮАБЦДЕФГХИЙКЛМНОПЯРСТУЖВЬЫЗШЭЩЧЪ"

/-- The characters of `kz1048` from `0x80` on. -/
def lettersKz1048 : String :=
  "ЂЃ‚ѓ„…†‡€‰Љ‹ЊҚҺЏђ‘’“”•–—\uFFFD™љ›њқһџ\u00A0ҰұӘ¤Ө¦§Ё©Ғ«¬\u00AD®Ү°±Ііөµ¶·ё№ғ»әҢңүАБВГДЕЖЗИЙК" ++
  "ЛМНОПРСТУФХЦЧШЩЪЫЬЭЮЯабвгдежзийклмнопрстуфхцчшщъыьэюя"

/-- The characters of `ptcp154` from `0x80` on. -/
def lettersPtcp154 : String :=
  "ҖҒӮғ„…ҶҮҲүҠӢҢҚҺҸҗ‘’“”•–—ҳҷҡӣңқһҹ\u00A0ЎўЈӨҘҰ§Ё©Ә«¬ӯ®Ҝ°ұІіҙө¶·ё№ә»јҪҫҝАБВГДЕЖЗИЙКЛМНОПРСТУФ" ++
  "ХЦЧШЩЪЫЬЭЮЯабвгдежзийклмнопрстуфхцчшщъыьэюя"

/-- The characters of `palmos` from `0x80` on. -/
def lettersPalmos : String :=
  "€\u0081‚ƒ„…†‡ˆ‰Š‹Œ♦♣♥♠‘’“”•–—˜™š\u009Bœ\u009D\u009EŸ\u00A0¡¢£¤¥¦§¨©ª«¬\u00AD®¯°±²³´µ¶·¸¹º»" ++
  "¼½¾¿ÀÁÂÃÄÅÆÇÈÉÊËÌÍÎÏÐÑÒÓÔÕÖ×ØÙÚÛÜÝÞßàáâãäåæçèéêëìíîïðñòóôõö÷øùúûüýþÿ"

/-- The characters of `mac_arabic` from `0x80` on. -/
def lettersMacArabic : String :=
  "Ä\u00A0ÇÉÑÖÜáàâä\u06BA«çéèêëí…îïñó»ôö÷úùûü !\"#$٪&'()*+،-./٠١٢٣٤٥٦٧٨٩:\u061B<=>\u061F❊" ++
  "\u0621\u0622\u0623\u0624\u0625\u0626\u0627\u0628\u0629\u062A\u062B\u062C\u062D\u062E\u062F" ++
  "\u0630\u0631\u0632\u0633\u0634\u0635\u0636\u0637\u0638\u0639\u063A[\\]^_\u0640\u0641\u0642" ++
  "\u0643\u0644\u0645\u0646\u0647\u0648\u0649\u064A\u064B\u064C\u064D\u064E\u064F\u0650\u0651" ++
  "\u0652\u067E\u0679\u0686\u06D5\u06A4\u06AF\u0688\u0691\x7b|\x7d\u0698\u06D2"

/-- The characters of `mac_croatian` from `0x80` on. -/
def lettersMacCroatian : String :=
  "ÄÅÇÉÑÖÜáàâäãåçéèêëíìîïñóòôöõúùûü†°¢£§•¶ß®Š™´¨≠ŽØ∞±≤≥∆µ∂∑∏š∫ªºΩžø¿¡¬√ƒ≈Ć«Č…\u00A0ÀÃÕŒœĐ—“”‘" ++
  "’÷◊\uF8FF©⁄€‹›Æ»–·‚„‰ÂćÁčÈÍÎÏÌÓÔđÒÚÛÙıˆ˜¯πË˚¸Êæˇ"

/-- The characters of `mac_farsi` from `0x80` on. -/
def lettersMacFarsi : String :=
  "Ä\u00A0ÇÉÑÖÜáàâä\u06BA«çéèêëí…îïñó»ôö÷úùûü !\"#$٪&'()*+،-./۰۱۲۳۴۵۶۷۸۹:\u061B<=>\u061F❊" ++
  "\u0621\u0622\u0623\u0624\u0625\u0626\u0627\u0628\u0629\u062A\u062B\u062C\u062D\u062E\u062F" ++
  "\u0630\u0631\u0632\u0633\u0634\u0635\u0636\u0637\u0638\u0639\u063A[\\]^_\u0640\u0641\u0642" ++
  "\u0643\u0644\u0645\u0646\u0647\u0648\u0649\u064A\u064B\u064C\u064D\u064E\u064F\u0650\u0651" ++
  "\u0652\u067E\u0679\u0686\u06D5\u06A4\u06AF\u0688\u0691\x7b|\x7d\u0698\u06D2"

/-- The characters of `mac_greek` from `0x80` on. -/
def lettersMacGreek : String :=
  "Ä¹²É³ÖÜ΅àâä΄¨çéèêë£™îï•½‰ôö¦€ùûü†ΓΔΘΛΞΠß®©ΣΪ§≠°·Α±≤≥¥ΒΕΖΗΙΚΜΦΫΨΩάΝ¬ΟΡ≈Τ«»…\u00A0ΥΧΆΈœ–―“”‘" ++
  "’÷ΉΊΌΎέήίόΏύαβψδεφγηιξκλμνοπώρστθωςχυζϊϋΐΰ\u00AD"

/-- The characters of `mac_iceland` from `0x80` on. -/
def lettersMacIceland : String :=
  "ÄÅÇÉÑÖÜáàâäãåçéèêëíìîïñóòôöõúùûüÝ°¢£§•¶ß®©™´¨≠ÆØ∞±≤≥¥µ∂∑∏π∫ªºΩæø¿¡¬√ƒ≈∆«»…\u00A0ÀÃÕŒœ–—“”‘" ++
  "’÷◊ÿŸ⁄€ÐðÞþý·‚„‰ÂÊÁËÈÍÎÏÌÓÔ\uF8FFÒÚÛÙıˆ˜¯˘˙˚¸˝˛ˇ"

/-- The characters of `mac_latin2` from `0x80` on. -/
def lettersMacLatin2 : String :=
  "ÄĀāÉĄÖÜáąČäčĆćéŹźĎíďĒēĖóėôöõúĚěü†°Ę£§•¶ß®©™ę¨≠ģĮįĪ≤≥īĶ∂∑łĻļĽľĹĺŅņŃ¬√ńŇ∆«»…\u00A0ňŐÕőŌ–—“”‘" ++
  "’÷◊ōŔŕŘ‹›řŖŗŠ‚„šŚśÁŤťÍŽžŪÓÔūŮÚůŰűŲųÝýķŻŁżĢˇ"

/-- The characters of `mac_romanian` from `0x80` on. -/
def lettersMacRomanian : String :=
  "ÄÅÇÉÑÖÜáàâäãåçéèêëíìîïñóòôöõúùûü†°¢£§•¶ß®©™´¨≠ĂȘ∞±≤≥¥µ∂∑∏π∫ªºΩăș¿¡¬√ƒ≈∆«»…\u00A0ÀÃÕŒœ–—“”‘" ++
  "’÷◊ÿŸ⁄€‹›Țț‡·‚„‰ÂÊÁËÈÍÎÏÌÓÔ\uF8FFÒÚÛÙıˆ˜¯˘˙˚¸˝˛ˇ"

/-- The characters of `mac_turkish` from `0x80` on. -/
def lettersMacTurkish : String :=
  "ÄÅÇÉÑÖÜáàâäãåçéèêëíìîïñóòôöõúùûü†°¢£§•¶ß®©™´¨≠ÆØ∞±≤≥¥µ∂∑∏π∫ªºΩæø¿¡¬√ƒ≈∆«»…\u00A0ÀÃÕŒœ–—“”‘" ++
  "’÷◊ÿŸĞğİıŞş‡·‚„‰ÂÊÁËÈÍÎÏÌÓÔ\uF8FFÒÚÛÙ\uF8A0ˆ˜¯˘˙˚¸˝˛ˇ"

/-- The characters of `cp037` from `0x00` on. -/
def lettersCp037 : String :=
  "\x00\x01\x02\x03\u009C\x09\u0086\x7f\u0097\u008D\u008E\x0b\x0c\x0d\x0e\x0f\x10\x11\x12\x13" ++
  "\u009D\u0085\x08\u0087\x18\x19\u0092\u008F\x1c\x1d\x1e\x1f\u0080\u0081\u0082\u0083\u0084" ++
  "\x0a\x17\x1b\u0088\u0089\u008A\u008B\u008C\x05\x06\x07\u0090\u0091\x16\u0093\u0094\u0095" ++
  "\u0096\x04\u0098\u0099\u009A\u009B\x14\x15\u009E\x1a \u00A0âäàáãåçñ¢.<(+|&éêëèíîïìß!$*);¬-" ++
  "/ÂÄÀÁÃÅÇÑ¦,%_>?øÉÊËÈÍÎÏÌ`:#@'=\"Øabcdefghi«»ðýþ±°jklmnopqrªºæ¸Æ¤µ~stuvwxyz¡¿ÐÝÞ®^£¥·©§¶¼½¾" ++
  "[]¯¨´×\x7bABCDEFGHI\u00ADôöòóõ\x7dJKLMNOPQR¹ûüùúÿ\\÷STUVWXYZ²ÔÖÒÓÕ0123456789³ÛÜÙÚ\u009F"

/-- The characters of `cp273` from `0x00` on. -/
def lettersCp273 : String :=
  "\x00\x01\x02\x03\u009C\x09\u0086\x7f\u0097\u008D\u008E\x0b\x0c\x0d\x0e\x0f\x10\x11\x12\x13" ++
  "\u009D\u0085\x08\u0087\x18\x19\u0092\u008F\x1c\x1d\x1e\x1f\u0080\u0081\u0082\u0083\u0084" ++
  "\x0a\x17\x1b\u0088\u0089\u008A\u008B\u008C\x05\x06\x07\u0090\u0091\x16\u0093\u0094\u0095" ++
  "\u0096\x04\u0098\u0099\u009A\u009B\x14\x15\u009E\x1a \u00A0â\x7bàáãåçñÄ.<(+!&éêëèíîïì~Ü$*)" ++
  ";^-/Â[ÀÁÃÅÇÑö,%_>?øÉÊËÈÍÎÏÌ`:#§'=\"Øabcdefghi«»ðýþ±°jklmnopqrªºæ¸Æ¤µßstuvwxyz¡¿ÐÝÞ®¢£¥·©@¶" ++
  "¼½¾¬|‾¨´×äABCDEFGHI\u00ADô¦òóõüJKLMNOPQR¹û\x7dùúÿÖ÷STUVWXYZ²Ô\\ÒÓÕ0123456789³Û]ÙÚ\u009F"

/-- The characters of `cp424` from `0x00` on. -/
def lettersCp424 : String :=
  "\x00\x01\x02\x03\u009C\x09\u0086\x7f\u0097\u008D\u008E\x0b\x0c\x0d\x0e\x0f\x10\x11\x12\x13" ++
  "\u009D\u0085\x08\u0087\x18\x19\u0092\u008F\x1c\x1d\x1e\x1f\u0080\u0081\u0082\u0083\u0084" ++
  "\x0a\x17\x1b\u0088\u0089\u008A\u008B\u008C\x05\x06\x07\u0090\u0091\x16\u0093\u0094\u0095" ++
  "\u0096\x04\u0098\u0099\u009A\u009B\x14\x15\u009E\x1a \u05D0\u05D1\u05D2\u05D3\u05D4\u05D5" ++
  "\u05D6\u05D7\u05D8¢.<(+|&\u05D9\u05DA\u05DB\u05DC\u05DD\u05DE\u05DF\u05E0\u05E1!$*);¬-/" ++
  "\u05E2\u05E3\u05E4\u05E5\u05E6\u05E7\u05E8\u05E9¦,%_>?\uFFFD\u05EA\uFFFD\uFFFD\u00A0\uFFFD" ++
  "\uFFFD\uFFFD‗`:#@'=\"\uFFFDabcdefghi«»\uFFFD\uFFFD\uFFFD±°jklmnopqr\uFFFD\uFFFD\uFFFD¸" ++
  "\uFFFD¤µ~stuvwxyz\uFFFD\uFFFD\uFFFD\uFFFD\uFFFD®^£¥·©§¶¼½¾[]¯¨´×\x7bABCDEFGHI\u00AD\uFFFD" ++
  "\uFFFD\uFFFD\uFFFD\uFFFD\x7dJKLMNOPQR¹\uFFFD\uFFFD\uFFFD\uFFFD\uFFFD\\÷STUVWXYZ²\uFFFD" ++
  "\uFFFD\uFFFD\uFFFD\uFFFD0123456789³\uFFFD\uFFFD\uFFFD\uFFFD\u009F"

/-- The characters of `cp500` from `0x00` on. -/
def lettersCp500 : String :=
  "\x00\x01\x02\x03\u009C\x09\u0086\x7f\u0097\u008D\u008E\x0b\x0c\x0d\x0e\x0f\x10\x11\x12\x13" ++
  "\u009D\u0085\x08\u0087\x18\x19\u0092\u008F\x1c\x1d\x1e\x1f\u0080\u0081\u0082\u0083\u0084" ++
  "\x0a\x17\x1b\u0088\u0089\u008A\u008B\u008C\x05\x06\x07\u0090\u0091\x16\u0093\u0094\u0095" ++
  "\u0096\x04\u0098\u0099\u009A\u009B\x14\x15\u009E\x1a \u00A0âäàáãåçñ[.<(+!&éêëèíîïìß]$*);^-" ++
  "/ÂÄÀÁÃÅÇÑ¦,%_>?øÉÊËÈÍÎÏÌ`:#@'=\"Øabcdefghi«»ðýþ±°jklmnopqrªºæ¸Æ¤µ~stuvwxyz¡¿ÐÝÞ®¢£¥·©§¶¼½¾" ++
  "¬|¯¨´×\x7bABCDEFGHI\u00ADôöòóõ\x7dJKLMNOPQR¹ûüùúÿ\\÷STUVWXYZ²ÔÖÒÓÕ0123456789³ÛÜÙÚ\u009F"

/-- The characters of `cp875` from `0x00` on. -/
def lettersCp875 : String :=
  "\x00\x01\x02\x03\u009C\x09\u0086\x7f\u0097\u008D\u008E\x0b\x0c\x0d\x0e\x0f\x10\x11\x12\x13" ++
  "\u009D\u0085\x08\u0087\x18\x19\u0092\u008F\x1c\x1d\x1e\x1f\u0080\u0081\u0082\u0083\u0084" ++
  "\x0a\x17\x1b\u0088\u0089\u008A\u008B\u008C\x05\x06\x07\u0090\u0091\x16\u0093\u0094\u0095" ++
  "\u0096\x04\u0098\u0099\u009A\u009B\x14\x15\u009E\x1a ΑΒΓΔΕΖΗΘΙ[.<(+!&ΚΛΜΝΞΟΠΡΣ]$*);^-/ΤΥΦΧ" ++
  "ΨΩΪΫ|,%_>?¨ΆΈΉ\u00A0ΊΌΎΏ`:#@'=\"΅abcdefghiαβγδεζ°jklmnopqrηθικλμ´~stuvwxyzνξοπρσ£άέήϊίόύϋώ" ++
  "ςτυφχψ\x7bABCDEFGHI\u00ADωΐΰ‘―\x7dJKLMNOPQR±½\x1a\u0387’¦\\\x1aSTUVWXYZ²§\x1a\x1a«¬0123456" ++
  "789³©\x1a\x1a»\u009F"

/-- The characters of `cp1026` from `0x00` on. -/
def lettersCp1026 : String :=
  "\x00\x01\x02\x03\u009C\x09\u0086\x7f\u0097\u008D\u008E\x0b\x0c\x0d\x0e\x0f\x10\x11\x12\x13" ++
  "\u009D\u0085\x08\u0087\x18\x19\u0092\u008F\x1c\x1d\x1e\x1f\u0080\u0081\u0082\u0083\u0084" ++
  "\x0a\x17\x1b\u0088\u0089\u008A\u008B\u008C\x05\x06\x07\u0090\u0091\x16\u0093\u0094\u0095" ++
  "\u0096\x04\u0098\u0099\u009A\u009B\x14\x15\u009E\x1a \u00A0âäàáãå\x7bñÇ.<(+!&éêëèíîïìßĞİ*)" ++
  ";^-/ÂÄÀÁÃÅ[Ñş,%_>?øÉÊËÈÍÎÏÌı:ÖŞ'=ÜØabcdefghi«»\x7d`¦±°jklmnopqrªºæ¸Æ¤µöstuvwxyz¡¿]$@®¢£¥·©" ++
  "§¶¼½¾¬|¯¨´×çABCDEFGHI\u00ADô~òóõğJKLMNOPQR¹û\\ùúÿü÷STUVWXYZ²Ô#ÒÓÕ0123456789³Û\"ÙÚ\u009F"

/-- The characters of `cp1140` from `0x00` on. -/
def lettersCp1140 : String :=
  "\x00\x01\x02\x03\u009C\x09\u0086\x7f\u0097\u008D\u008E\x0b\x0c\x0d\x0e\x0f\x10\x11\x12\x13" ++
  "\u009D\u0085\x08\u0087\x18\x19\u0092\u008F\x1c\x1d\x1e\x1f\u0080\u0081\u0082\u0083\u0084" ++
  "\x0a\x17\x1b\u0088\u0089\u008A\u008B\u008C\x05\x06\x07\u0090\u0091\x16\u0093\u0094\u0095" ++
  "\u0096\x04\u0098\u0099\u009A\u009B\x14\x15\u009E\x1a \u00A0âäàáãåçñ¢.<(+|&éêëèíîïìß!$*);¬-" ++
  "/ÂÄÀÁÃÅÇÑ¦,%_>?øÉÊËÈÍÎÏÌ`:#@'=\"Øabcdefghi«»ðýþ±°jklmnopqrªºæ¸Æ€µ~stuvwxyz¡¿ÐÝÞ®^£¥·©§¶¼½¾" ++
  "[]¯¨´×\x7bABCDEFGHI\u00ADôöòóõ\x7dJKLMNOPQR¹ûüùúÿ\\÷STUVWXYZ²ÔÖÒÓÕ0123456789³ÛÜÙÚ\u009F"

/-- The charsets. -/
def moreByteCharsets : List ByteCharset := [
  ⟨["cp720"], 0x80, lettersCp720⟩,
  ⟨["cp737"], 0x80, lettersCp737⟩,
  ⟨["775", "cp775", "cspc775baltic", "ibm775"], 0x80, lettersCp775⟩,
  ⟨["cp856"], 0x80, lettersCp856⟩,
  ⟨["857", "cp857", "csibm857", "ibm857"], 0x80, lettersCp857⟩,
  ⟨["858", "cp858", "csibm858", "ibm858"], 0x80, lettersCp858⟩,
  ⟨["860", "cp860", "csibm860", "ibm860"], 0x80, lettersCp860⟩,
  ⟨["861", "cp861", "cp_is", "csibm861", "ibm861"], 0x80, lettersCp861⟩,
  ⟨["862", "cp862", "cspc862latinhebrew", "ibm862"], 0x80, lettersCp862⟩,
  ⟨["863", "cp863", "csibm863", "ibm863"], 0x80, lettersCp863⟩,
  ⟨["864", "cp864", "csibm864", "ibm864"], 0x00, lettersCp864⟩,
  ⟨["865", "cp865", "csibm865", "ibm865"], 0x80, lettersCp865⟩,
  ⟨["869", "cp869", "cp_gr", "csibm869", "ibm869"], 0x80, lettersCp869⟩,
  ⟨["cp1006"], 0xA0, lettersCp1006⟩,
  ⟨["1125", "cp1125", "cp866u", "ibm1125", "ruscii"], 0x80, lettersCp1125⟩,
  ⟨["cp1051", "hp_roman8", "ibm1051", "r8", "roman8"], 0xA0, lettersHpRoman8⟩,
  ⟨["koi8_t"], 0x80, lettersKoi8T⟩,
  ⟨["kz1048", "kz_1048", "rk1048", "strk1048_2002"], 0x80, lettersKz1048⟩,
  ⟨["cp154", "csptcp154", "cyrillic_asian", "pt154", "ptcp154"], 0x80, lettersPtcp154⟩,
  ⟨["palmos"], 0x80, lettersPalmos⟩,
  ⟨["mac_arabic"], 0x80, lettersMacArabic⟩,
  ⟨["mac_croatian"], 0x80, lettersMacCroatian⟩,
  ⟨["mac_farsi"], 0x80, lettersMacFarsi⟩,
  ⟨["mac_greek", "macgreek"], 0x80, lettersMacGreek⟩,
  ⟨["mac_iceland", "maciceland"], 0x80, lettersMacIceland⟩,
  ⟨["mac_centeuro", "mac_latin2", "maccentraleurope", "maclatin2"], 0x80, lettersMacLatin2⟩,
  ⟨["mac_romanian"], 0x80, lettersMacRomanian⟩,
  ⟨["mac_turkish", "macturkish"], 0x80, lettersMacTurkish⟩,
  ⟨["037", "cp037", "csibm037", "ebcdic_cp_ca", "ebcdic_cp_nl", "ebcdic_cp_us", "ebcdic_cp_wt",
    "ibm037", "ibm039"], 0x00, lettersCp037⟩,
  ⟨["273", "cp273", "csibm273", "ibm273"], 0x00, lettersCp273⟩,
  ⟨["424", "cp424", "csibm424", "ebcdic_cp_he", "ibm424"], 0x00, lettersCp424⟩,
  ⟨["500", "cp500", "csibm500", "ebcdic_cp_be", "ebcdic_cp_ch", "ibm500"], 0x00, lettersCp500⟩,
  ⟨["cp875"], 0x00, lettersCp875⟩,
  ⟨["1026", "cp1026", "csibm1026", "ibm1026"], 0x00, lettersCp1026⟩,
  ⟨["1140", "cp1140", "ibm1140"], 0x00, lettersCp1140⟩]

end VarsAdvisor.Text
