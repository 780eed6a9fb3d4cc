import Nesting.Text

/-!
# Code pages

A code page is an encoding with one byte a character. The lower half is ASCII in all of them, so a
page is the row of the 128 characters of its upper half; `U+FFFD` stands where a page has none.
-/

namespace Nesting

/-- An encoding with one byte a character: the characters of the bytes from 128 on, in order. -/
structure CodePage where
  upper : String

namespace CodePage

/-- The character of a byte, given the upper half as an array. -/
def charIn (upper : Array Char) (b : UInt8) : Char :=
  if b < 0x80 then Char.ofNat b.toNat else upper.getD (b.toNat - 0x80) '\ufffd'

/-- The text of a byte sequence. -/
def decode (page : CodePage) (bytes : Bytes) : Text :=
  let upper := page.upper.toList.toArray
  bytes.map (charIn upper)

/-! ## The pages -/

/-- The private page whose upper half stands for its own bytes. -/
def userDefined : CodePage where
  upper := String.ofList ((List.range 128).map fun i => Char.ofNat (0xf780 + i))

/-- A page without characters for the bytes from 128 to 159. -/
def withoutControls (rest : String) : CodePage where
  upper := String.ofList (List.replicate 32 '\ufffd') ++ rest

def ibm866 : CodePage where
  upper :=
    "АБВГДЕЖЗИЙКЛМНОПРСТУФХЦЧШЩЪЫЬЭЮЯ"
      ++ "абвгдежзийклмноп░▒▓│┤╡╢╖╕╣║╗╝╜╛┐"
      ++ "└┴┬├─┼╞╟╚╔╩╦╠═╬╧╨╤╥╙╘╒╓╫╪┘┌█▄▌▐▀"
      ++ "рстуфхцчшщъыьэюяЁёЄєЇїЎў°∙·√№¤■\u00a0"

def iso88592 : CodePage :=
  withoutControls (
    "\u00a0Ą˘Ł¤ĽŚ§¨ŠŞŤŹ\u00adŽŻ°ą˛ł´ľś\u02c7¸šşťź˝žż"
      ++ "ŔÁÂĂÄĹĆÇČÉĘËĚÍÎĎĐŃŇÓÔŐÖ×ŘŮÚŰÜÝŢß"
      ++ "ŕáâăäĺćçčéęëěíîďđńňóôőö÷řůúűüýţ˙")

def iso88593 : CodePage :=
  withoutControls (
    "\u00a0Ħ˘£¤\ufffdĤ§¨İŞĞĴ\u00ad\ufffdŻ°ħ²³´µĥ·¸ışğĵ½\ufffdż"
      ++ "ÀÁÂ\ufffdÄĊĈÇÈÉÊËÌÍÎÏ\ufffdÑÒÓÔĠÖ×ĜÙÚÛÜŬŜß"
      ++ "àáâ\ufffdäċĉçèéêëìíîï\ufffdñòóôġö÷ĝùúûüŭŝ˙")

def iso88594 : CodePage :=
  withoutControls (
    "\u00a0ĄĸŖ¤ĨĻ§¨ŠĒĢŦ\u00adŽ¯°ą˛ŗ´ĩļ\u02c7¸šēģŧŊžŋ"
      ++ "ĀÁÂÃÄÅÆĮČÉĘËĖÍÎĪĐŅŌĶÔÕÖ×ØŲÚÛÜŨŪß"
      ++ "āáâãäåæįčéęëėíîīđņōķôõö÷øųúûüũū˙")

def iso88595 : CodePage :=
  withoutControls (
    "\u00a0ЁЂЃЄЅІЇЈЉЊЋЌ\u00adЎЏАБВГДЕЖЗИЙКЛМНОП"
      ++ "РСТУФХЦЧШЩЪЫЬЭЮЯабвгдежзийклмноп"
      ++ "рстуфхцчшщъыьэюя№ёђѓєѕіїјљњћќ§ўџ")

def iso88596 : CodePage :=
  withoutControls (
    "\u00a0\ufffd\ufffd\ufffd¤\ufffd\ufffd\ufffd"
      ++ "\ufffd\ufffd\ufffd\ufffd،\u00ad\ufffd\ufffd"
      ++ "\ufffd\ufffd\ufffd\ufffd\ufffd\ufffd\ufffd\ufffd"
      ++ "\ufffd\ufffd\ufffd\u061b\ufffd\ufffd\ufffd\u061f"
      ++ "\ufffd\u0621\u0622\u0623\u0624\u0625\u0626\u0627"
      ++ "\u0628\u0629\u062a\u062b\u062c\u062d\u062e\u062f"
      ++ "\u0630\u0631\u0632\u0633\u0634\u0635\u0636\u0637"
      ++ "\u0638\u0639\u063a\ufffd\ufffd\ufffd\ufffd\ufffd"
      ++ "\u0640\u0641\u0642\u0643\u0644\u0645\u0646\u0647"
      ++ "\u0648\u0649\u064a\u064b\u064c\u064d\u064e\u064f"
      ++ "\u0650\u0651\u0652\ufffd\ufffd\ufffd\ufffd\ufffd"
      ++ "\ufffd\ufffd\ufffd\ufffd\ufffd\ufffd\ufffd\ufffd")

def iso88597 : CodePage :=
  withoutControls (
    "\u00a0‘’£€₯¦§¨©\u037a«¬\u00ad\ufffd―°±²³΄΅Ά·ΈΉΊ»Ό½ΎΏ"
      ++ "ΐΑΒΓΔΕΖΗΘΙΚΛΜΝΞΟΠΡ\ufffdΣΤΥΦΧΨΩΪΫάέήί"
      ++ "ΰαβγδεζηθικλμνξοπρςστυφχψωϊϋόύώ\ufffd")

def iso88598 : CodePage :=
  withoutControls (
    "\u00a0\ufffd¢£¤¥¦§¨©×«¬\u00ad®¯°±²³´µ¶·¸¹÷»¼½¾\ufffd"
      ++ "\ufffd\ufffd\ufffd\ufffd\ufffd\ufffd\ufffd\ufffd"
      ++ "\ufffd\ufffd\ufffd\ufffd\ufffd\ufffd\ufffd\ufffd"
      ++ "\ufffd\ufffd\ufffd\ufffd\ufffd\ufffd\ufffd\ufffd"
      ++ "\ufffd\ufffd\ufffd\ufffd\ufffd\ufffd\ufffd‗"
      ++ "\u05d0\u05d1\u05d2\u05d3\u05d4\u05d5\u05d6\u05d7"
      ++ "\u05d8\u05d9\u05da\u05db\u05dc\u05dd\u05de\u05df"
      ++ "\u05e0\u05e1\u05e2\u05e3\u05e4\u05e5\u05e6\u05e7"
      ++ "\u05e8\u05e9\u05ea\ufffd\ufffd\u200e\u200f\ufffd")

def iso885910 : CodePage :=
  withoutControls (
    "\u00a0ĄĒĢĪĨĶ§ĻĐŠŦŽ\u00adŪŊ°ąēģīĩķ·ļđšŧž―ūŋ"
      ++ "ĀÁÂÃÄÅÆĮČÉĘËĖÍÎÏÐŅŌÓÔÕÖŨØŲÚÛÜÝÞß"
      ++ "āáâãäåæįčéęëėíîïðņōóôõöũøųúûüýþĸ")

def iso885913 : CodePage :=
  withoutControls (
    "\u00a0”¢£¤„¦§Ø©Ŗ«¬\u00ad®Æ°±²³“µ¶·ø¹ŗ»¼½¾æ"
      ++ "ĄĮĀĆÄÅĘĒČÉŹĖĢĶĪĻŠŃŅÓŌÕÖ×ŲŁŚŪÜŻŽß"
      ++ "ąįāćäåęēčéźėģķīļšńņóōõö÷ųłśūüżž’")

def iso885914 : CodePage :=
  withoutControls (
    "\u00a0Ḃḃ£ĊċḊ§Ẁ©ẂḋỲ\u00ad®ŸḞḟĠġṀṁ¶ṖẁṗẃṠỳẄẅṡ"
      ++ "ÀÁÂÃÄÅÆÇÈÉÊËÌÍÎÏŴÑÒÓÔÕÖṪØÙÚÛÜÝŶß"
      ++ "àáâãäåæçèéêëìíîïŵñòóôõöṫøùúûüýŷÿ")

def iso885915 : CodePage :=
  withoutControls (
    "\u00a0¡¢£€¥Š§š©ª«¬\u00ad®¯°±²³Žµ¶·ž¹º»ŒœŸ¿"
      ++ "ÀÁÂÃÄÅÆÇÈÉÊËÌÍÎÏÐÑÒÓÔÕÖ×ØÙÚÛÜÝÞß"
      ++ "àáâãäåæçèéêëìíîïðñòóôõö÷øùúûüýþÿ")

def iso885916 : CodePage :=
  withoutControls (
    "\u00a0ĄąŁ€„Š§š©Ș«Ź\u00adźŻ°±ČłŽ”¶·žčș»ŒœŸż"
      ++ "ÀÁÂĂÄĆÆÇÈÉÊËÌÍÎÏĐŃÒÓÔŐÖŚŰÙÚÛÜĘȚß"
      ++ "àáâăäćæçèéêëìíîïđńòóôőöśűùúûüęțÿ")

def koi8r : CodePage where
  upper :=
    "─│┌┐└┘├┤┬┴┼▀▄█▌▐░▒▓⌠■∙√≈≤≥\u00a0⌡°²·÷"
      ++ "═║╒ё╓╔╕╖╗╘╙╚╛╜╝╞╟╠╡Ё╢╣╤╥╦╧╨╩╪╫╬©"
      ++ "юабцдефгхийклмнопярстужвьызшэщчъ"
      ++ "ЮАБЦДЕФГХИЙКЛМНОПЯРСТУЖВЬЫЗШЭЩЧЪ"

def koi8u : CodePage where
  upper :=
    "─│┌┐└┘├┤┬┴┼▀▄█▌▐░▒▓⌠■∙√≈≤≥\u00a0⌡°²·÷"
      ++ "═║╒ёє╔ії╗╘╙╚╛ґ╝╞╟╠╡ЁЄ╣ІЇ╦╧╨╩╪Ґ╬©"
      ++ "юабцдефгхийклмнопярстужвьызшэщчъ"
      ++ "ЮАБЦДЕФГХИЙКЛМНОПЯРСТУЖВЬЫЗШЭЩЧЪ"

def macintosh : CodePage where
  upper :=
    "ÄÅÇÉÑÖÜáàâäãåçéèêëíìîïñóòôöõúùûü"
      ++ "†°¢£§•¶ß®©™´¨≠ÆØ∞±≤≥¥µ∂∑∏π∫ªºΩæø"
      ++ "¿¡¬√ƒ≈∆«»…\u00a0ÀÃÕŒœ–—“”‘’÷◊ÿŸ⁄€‹›ﬁﬂ"
      ++ "‡·‚„‰ÂÊÁËÈÍÎÏÌÓÔ\uf8ffÒÚÛÙı\u02c6˜¯˘˙˚¸˝˛\u02c7"

def windows874 : CodePage where
  upper :=
    "€\ufffd\ufffd\ufffd\ufffd…\ufffd\ufffd"
      ++ "\ufffd\ufffd\ufffd\ufffd\ufffd\ufffd\ufffd\ufffd"
      ++ "\ufffd‘’“”•–—"
      ++ "\ufffd\ufffd\ufffd\ufffd\ufffd\ufffd\ufffd\ufffd"
      ++ "\u00a0\u0e01\u0e02\u0e03\u0e04\u0e05\u0e06\u0e07"
      ++ "\u0e08\u0e09\u0e0a\u0e0b\u0e0c\u0e0d\u0e0e\u0e0f"
      ++ "\u0e10\u0e11\u0e12\u0e13\u0e14\u0e15\u0e16\u0e17"
      ++ "\u0e18\u0e19\u0e1a\u0e1b\u0e1c\u0e1d\u0e1e\u0e1f"
      ++ "\u0e20\u0e21\u0e22\u0e23\u0e24\u0e25\u0e26\u0e27"
      ++ "\u0e28\u0e29\u0e2a\u0e2b\u0e2c\u0e2d\u0e2e\u0e2f"
      ++ "\u0e30\u0e31\u0e32\u0e33\u0e34\u0e35\u0e36\u0e37"
      ++ "\u0e38\u0e39\u0e3a\ufffd\ufffd\ufffd\ufffd\u0e3f"
      ++ "\u0e40\u0e41\u0e42\u0e43\u0e44\u0e45\u0e46\u0e47"
      ++ "\u0e48\u0e49\u0e4a\u0e4b\u0e4c\u0e4d\u0e4e\u0e4f"
      ++ "\u0e50\u0e51\u0e52\u0e53\u0e54\u0e55\u0e56\u0e57"
      ++ "\u0e58\u0e59\u0e5a\u0e5b\ufffd\ufffd\ufffd\ufffd"

def windows1250 : CodePage where
  upper :=
    "€\ufffd‚\ufffd„…†‡\ufffd‰Š‹ŚŤŽŹ\ufffd‘’“”•–—\ufffd™š›śťžź"
      ++ "\u00a0\u02c7˘Ł¤Ą¦§¨©Ş«¬\u00ad®Ż°±˛ł´µ¶·¸ąş»Ľ˝ľż"
      ++ "ŔÁÂĂÄĹĆÇČÉĘËĚÍÎĎĐŃŇÓÔŐÖ×ŘŮÚŰÜÝŢß"
      ++ "ŕáâăäĺćçčéęëěíîďđńňóôőö÷řůúűüýţ˙"

def windows1251 : CodePage where
  upper :=
    "ЂЃ‚ѓ„…†‡€‰Љ‹ЊЌЋЏђ‘’“”•–—\ufffd™љ›њќћџ"
      ++ "\u00a0ЎўЈ¤Ґ¦§Ё©Є«¬\u00ad®Ї°±Ііґµ¶·ё№є»јЅѕї"
      ++ "АБВГДЕЖЗИЙКЛМНОПРСТУФХЦЧШЩЪЫЬЭЮЯ"
      ++ "абвгдежзийклмнопрстуфхцчшщъыьэюя"

def windows1252 : CodePage where
  upper :=
    "€\ufffd‚ƒ„…†‡\u02c6‰Š‹Œ\ufffdŽ\ufffd\ufffd‘’“”•–—˜™š›œ\ufffdžŸ"
      ++ "\u00a0¡¢£¤¥¦§¨©ª«¬\u00ad®¯°±²³´µ¶·¸¹º»¼½¾¿"
      ++ "ÀÁÂÃÄÅÆÇÈÉÊËÌÍÎÏÐÑÒÓÔÕÖ×ØÙÚÛÜÝÞß"
      ++ "àáâãäåæçèéêëìíîïðñòóôõö÷øùúûüýþÿ"

def windows1253 : CodePage where
  upper :=
    "€\ufffd‚ƒ„…†‡"
      ++ "\ufffd‰\ufffd‹\ufffd\ufffd\ufffd\ufffd"
      ++ "\ufffd‘’“”•–—"
      ++ "\ufffd™\ufffd›\ufffd\ufffd\ufffd\ufffd"
      ++ "\u00a0΅Ά£¤¥¦§¨©\ufffd«¬\u00ad®―°±²³΄µ¶·ΈΉΊ»Ό½ΎΏ"
      ++ "ΐΑΒΓΔΕΖΗΘΙΚΛΜΝΞΟΠΡ\ufffdΣΤΥΦΧΨΩΪΫάέήί"
      ++ "ΰαβγδεζηθικλμνξοπρςστυφχψωϊϋόύώ\ufffd"

def windows1254 : CodePage where
  upper :=
    "€\ufffd‚ƒ„…†‡\u02c6‰Š‹Œ\ufffd\ufffd\ufffd\ufffd‘’“”•–—˜™š›œ\ufffd\ufffdŸ"
      ++ "\u00a0¡¢£¤¥¦§¨©ª«¬\u00ad®¯°±²³´µ¶·¸¹º»¼½¾¿"
      ++ "ÀÁÂÃÄÅÆÇÈÉÊËÌÍÎÏĞÑÒÓÔÕÖ×ØÙÚÛÜİŞß"
      ++ "àáâãäåæçèéêëìíîïğñòóôõö÷øùúûüışÿ"

def windows1255 : CodePage where
  upper :=
    "€\ufffd‚ƒ„…†‡"
      ++ "\u02c6‰\ufffd‹\ufffd\ufffd\ufffd\ufffd"
      ++ "\ufffd‘’“”•–—"
      ++ "˜™\ufffd›\ufffd\ufffd\ufffd\ufffd"
      ++ "\u00a0¡¢£₪¥¦§¨©×«¬\u00ad®¯°±²³´µ¶·¸¹÷»¼½¾¿"
      ++ "\u05b0\u05b1\u05b2\u05b3\u05b4\u05b5\u05b6\u05b7"
      ++ "\u05b8\u05b9\ufffd\u05bb\u05bc\u05bd\u05be\u05bf"
      ++ "\u05c0\u05c1\u05c2\u05c3\u05f0\u05f1\u05f2\u05f3"
      ++ "\u05f4\ufffd\ufffd\ufffd\ufffd\ufffd\ufffd\ufffd"
      ++ "\u05d0\u05d1\u05d2\u05d3\u05d4\u05d5\u05d6\u05d7"
      ++ "\u05d8\u05d9\u05da\u05db\u05dc\u05dd\u05de\u05df"
      ++ "\u05e0\u05e1\u05e2\u05e3\u05e4\u05e5\u05e6\u05e7"
      ++ "\u05e8\u05e9\u05ea\ufffd\ufffd\u200e\u200f\ufffd"

def windows1256 : CodePage where
  upper :=
    "€\u067e‚ƒ„…†‡\u02c6‰\u0679‹Œ\u0686\u0698\u0688\u06af‘’“”•–—\u06a9™\u0691›œ\u200c\u200d\u06ba"
      ++ "\u00a0،¢£¤¥¦§¨©\u06be«¬\u00ad®¯°±²³´µ¶·¸¹\u061b»¼½¾\u061f"
      ++ "\u06c1\u0621\u0622\u0623\u0624\u0625\u0626\u0627"
      ++ "\u0628\u0629\u062a\u062b\u062c\u062d\u062e\u062f"
      ++ "\u0630\u0631\u0632\u0633\u0634\u0635\u0636×"
      ++ "\u0637\u0638\u0639\u063a\u0640\u0641\u0642\u0643"
      ++ "à\u0644â\u0645\u0646\u0647\u0648ç"
      ++ "èéêë\u0649\u064aîï"
      ++ "\u064b\u064c\u064d\u064eô\u064f\u0650÷"
      ++ "\u0651ù\u0652ûü\u200e\u200f\u06d2"

def windows1257 : CodePage where
  upper :=
    "€\ufffd‚\ufffd„…†‡\ufffd‰\ufffd‹\ufffd¨\u02c7¸\ufffd‘’“”•–—\ufffd™\ufffd›\ufffd¯˛\ufffd"
      ++ "\u00a0\ufffd¢£¤\ufffd¦§Ø©Ŗ«¬\u00ad®Æ°±²³´µ¶·ø¹ŗ»¼½¾æ"
      ++ "ĄĮĀĆÄÅĘĒČÉŹĖĢĶĪĻŠŃŅÓŌÕÖ×ŲŁŚŪÜŻŽß"
      ++ "ąįāćäåęēčéźėģķīļšńņóōõö÷ųłśūüżž˙"

def windows1258 : CodePage where
  upper :=
    "€\ufffd‚ƒ„…†‡\u02c6‰\ufffd‹Œ\ufffd\ufffd\ufffd\ufffd‘’“”•–—˜™\ufffd›œ\ufffd\ufffdŸ"
      ++ "\u00a0¡¢£¤¥¦§¨©ª«¬\u00ad®¯°±²³´µ¶·¸¹º»¼½¾¿"
      ++ "ÀÁÂĂÄÅÆÇÈÉÊË\u0300ÍÎÏĐÑ\u0309ÓÔƠÖ×ØÙÚÛÜƯ\u0303ß"
      ++ "àáâăäåæçèéêë\u0301íîïđñ\u0323óôơö÷øùúûüư₫ÿ"

def macCyrillic : CodePage where
  upper :=
    "АБВГДЕЖЗИЙКЛМНОПРСТУФХЦЧШЩЪЫЬЭЮЯ"
      ++ "†°Ґ£§•¶І®©™Ђђ≠Ѓѓ∞±≤≥іµґЈЄєЇїЉљЊњ"
      ++ "јЅ¬√ƒ≈∆«»…\u00a0ЋћЌќѕ–—“”‘’÷„ЎўЏџ№Ёёя"
      ++ "абвгдежзийклмнопрстуфхцчшщъыьэю€"

end CodePage

end Nesting
