import VarsAdvisor.Charset.EastAsian
import VarsAdvisor.Charset.MoreLetters
import VarsAdvisor.Charset.Utf7
import VarsAdvisor.Text.Lower
import VarsAdvisor.Text.Utf8

/-!
# Charsets

How the bytes of a text in a known charset are read. What cannot be read becomes a replacement
character. A text is refused only if it has to start with a byte order mark and does not, if it ends
within a long escape sequence, or if the name is that of something else than a charset.
-/

namespace VarsAdvisor.Text

/-- What stands for bytes that are no character. -/
def replacement : Char := '\uFFFD'

/-- What has a name like a charset and is none: a transfer coding of bytes, a permutation of letters,
a form for domain names that has no replacement characters, and nothing at all. -/
inductive NoCharset where
  | transfer
  | permutation
  | domain
  | undefined
  deriving DecidableEq, Repr

/-- The charsets: the forms of Unicode, in units of one, two or four bytes, the charsets of one byte
for each character, and those of several. Units of more than one byte come in a fixed order, with the
greatest part first or last, or in the order of the mark they start with. -/
inductive Charset where
  | utf7
  | utf8 (marked : Bool)
  | utf16 (bigFirst : Option Bool)
  | utf32 (bigFirst : Option Bool)
  | bytes (start : Nat) (letters : List Char)
  | eastAsian (charset : EastAsian)
  | other (kind : NoCharset)
  deriving Repr

namespace Charset

/-! ## Names -/

/-- A name in lower case, with one underscore for what stands between its letters, digits and
points. -/
def nameForm (separated : Bool) : List Char → List Char
  | [] => []
  | c :: r =>
    if c.isAlphanum || c == '.' then
      if separated then '_' :: lowerChar c :: nameForm false r else lowerChar c :: nameForm false r
    else nameForm true r

/-- The names of the forms of Unicode, of ASCII and of the first 256 characters of Unicode. -/
def names : List (List String × Charset) := [
  (["utf_7", "u7", "utf7", "unicode_1_1_utf_7"], .utf7),
  (["utf_8", "u8", "utf", "utf8", "utf8_ucs2", "utf8_ucs4", "cp65001"], .utf8 false),
  (["utf_8_sig"], .utf8 true),
  (["utf_16", "u16", "utf16"], .utf16 none),
  (["utf_16_le", "unicodelittleunmarked", "utf_16le"], .utf16 (some false)),
  (["utf_16_be", "unicodebigunmarked", "utf_16be"], .utf16 (some true)),
  (["utf_32", "u32", "utf32"], .utf32 none),
  (["utf_32_le", "utf_32le"], .utf32 (some false)),
  (["utf_32_be", "utf_32be"], .utf32 (some true)),
  (["ascii", "646", "ansi_x3.4_1968", "ansi_x3.4_1986", "ansi_x3_4_1968", "ansi_x3_4_1986",
    "cp367", "csascii", "ibm367", "iso646_us", "iso_646.irv_1991", "iso_646_irv_1991", "iso_ir_6",
    "us", "us_ascii"], .bytes 128 []),
  (["latin_1", "8859", "cp819", "csisolatin1", "ibm819", "iso8859", "iso8859_1", "iso_8859_1",
    "iso_8859_1_1987", "iso_ir_100", "l1", "latin", "latin1", "charmap"], .bytes 256 [])]

/-- The names of the charsets of several bytes for a character. -/
def eastAsianNames : List (List String × EastAsian) := [
  (["gb2312", "chinese", "csiso58gb231280", "euc_cn", "euccn", "eucgb2312_cn", "gb2312_1980",
    "gb2312_80", "iso_ir_58", "x_mac_simp_chinese"], .gb2312),
  (["gbk", "936", "cp936", "ms936"], .gbk),
  (["gb18030", "gb18030_2000"], .gb18030),
  (["hz", "hz_gb", "hz_gb_2312", "hzgb"], .hz),
  (["big5", "big5_tw", "csbig5", "x_mac_trad_chinese"], .big5),
  (["cp950", "950", "ms950"], .codePage950),
  (["euc_kr", "euckr", "korean", "ks_c_5601", "ks_c_5601_1987", "ks_x_1001", "ksc5601", "ksx1001",
    "x_mac_korean"], .eucKr),
  (["cp949", "949", "ms949", "uhc"], .codePage949),
  (["iso2022_kr", "csiso2022kr", "iso2022kr", "iso_2022_kr"], .iso2022Kr),
  (["shift_jis", "csshiftjis", "s_jis", "shiftjis", "sjis", "x_mac_japanese"], .shiftJis),
  (["cp932", "932", "ms932", "ms_kanji", "mskanji"], .codePage932),
  (["euc_jp", "eucjp", "u_jis", "ujis"], .eucJp),
  (["iso2022_jp", "csiso2022jp", "iso2022jp", "iso_2022_jp"], .iso2022Jp [0xC2, 0x4A, 0xC0]),
  (["iso2022_jp_1", "iso2022jp_1", "iso_2022_jp_1"], .iso2022Jp [0xC2, 0xC4, 0x4A, 0xC0]),
  (["iso2022_jp_ext", "iso2022jp_ext", "iso_2022_jp_ext"],
    .iso2022Jp [0xC2, 0xC4, 0x4A, 0x49, 0xC0])]

/-- The names of what is no charset. -/
def otherNames : List (List String × NoCharset) := [
  (["base64", "base_64", "base64_codec", "hex", "hex_codec", "quopri", "quoted_printable",
    "quotedprintable", "quopri_codec", "uu", "uu_codec", "bz2", "bz2_codec", "zip", "zlib",
    "zlib_codec"], .transfer),
  (["rot13", "rot_13"], .permutation),
  (["idna"], .domain),
  (["undefined"], .undefined)]

/-- What a list of names calls a name. -/
def called? {α : Type} (names : List (List String × α)) (name : String) : Option α :=
  (names.find? fun (ns, _) => ns.contains name).map (·.2)

/-- The charset of a name. -/
def ofName? (name : String) : Option Charset :=
  let form := String.ofList ((nameForm false name.toList).dropWhile (· == '_'))
  let ofBytes := ((byteCharsets ++ moreByteCharsets).find? fun c => c.names.contains form).map
    fun c => Charset.bytes c.start c.letters.toList
  (called? names form).or (ofBytes.or (((called? eastAsianNames form).map Charset.eastAsian).or
    ((called? otherNames form).map Charset.other)))

/-! ## Units -/

/-- Bytes as units of two bytes; an odd byte at the end is no unit. -/
def units16 (bigFirst : Bool) : List UInt8 → List Nat × Bool
  | a :: b :: r =>
    let (units, odd) := units16 bigFirst r
    ((if bigFirst then a.toNat * 256 + b.toNat else b.toNat * 256 + a.toNat) :: units, odd)
  | [_] => ([], true)
  | [] => ([], false)

/-- The characters of units of two bytes. An odd byte behind them is replaced together with half a
pair before it. -/
def decodeUnits16 (odd : Bool) : List Nat → List Char
  | [] => if odd then [replacement] else []
  | u :: r =>
    if u < 0xD800 ∨ 0xDFFF < u then Char.ofNat u :: decodeUnits16 odd r
    else if 0xDC00 ≤ u then replacement :: decodeUnits16 odd r
    else match r with
      | [] => [replacement]
      | v :: r' =>
        if 0xDC00 ≤ v ∧ v ≤ 0xDFFF then
          Char.ofNat (0x10000 + (u - 0xD800) * 0x400 + (v - 0xDC00)) :: decodeUnits16 odd r'
        else replacement :: decodeUnits16 odd (v :: r')

/-- The characters of units of two bytes each. -/
def decode16 (bigFirst : Bool) (bs : List UInt8) : List Char :=
  let (units, odd) := units16 bigFirst bs
  decodeUnits16 odd units

/-- The character of a code point. -/
def charOrReplacement (n : Nat) : Char :=
  if n.isValidChar then Char.ofNat n else replacement

/-- The characters of units of four bytes each. -/
def decode32 (bigFirst : Bool) : List UInt8 → List Char
  | a :: b :: c :: d :: r =>
    let value (w x y z : UInt8) : Nat :=
      ((w.toNat * 256 + x.toNat) * 256 + y.toNat) * 256 + z.toNat
    charOrReplacement (if bigFirst then value a b c d else value d c b a) :: decode32 bigFirst r
  | [] => []
  | _ => [replacement]

/-! ## Texts -/

/-- Why a text is refused: it does not start with a byte order mark, in units of so many bits; it
ends within a long escape sequence; or it is in no charset. -/
inductive Unreadable where
  | unmarked (bits : Nat)
  | unfinished
  | inNone (kind : NoCharset)
  deriving DecidableEq, Repr

/-- The wording. -/
def Unreadable.message : Unreadable → String
  | .unmarked bits => s!"UTF-{bits} stream does not start with BOM"
  | .unfinished => "pending buffer overflow"
  | .inNone .transfer => ""
  | .inNone .permutation =>
    "descriptor 'translate' for 'str' objects doesn't apply to a 'bytes' object"
  | .inNone .domain => "Unsupported error handling replace"
  | .inNone .undefined => "undefined encoding"

/-- The character of a byte. -/
def byteChar (start : Nat) (letters : List Char) (b : UInt8) : Char :=
  if b.toNat < start then Char.ofNat b.toNat
  else letters.getD (b.toNat - start) replacement

/-- Reads a text. A part of a byte order mark alone is no text. -/
def decode (charset : Charset) (bs : List UInt8) : Except Unreadable (List Char) :=
  match charset, bs with
  | .utf7, _ => .ok (Utf7.decode bs)
  | .utf8 false, _ => .ok (Utf8.decodeLossy bs)
  | .utf8 true, [0xEF] => .ok []
  | .utf8 true, [0xEF, 0xBB] => .ok []
  | .utf8 true, 0xEF :: 0xBB :: 0xBF :: r => .ok (Utf8.decodeLossy r)
  | .utf8 true, _ => .ok (Utf8.decodeLossy bs)
  | .utf16 (some bigFirst), _ => .ok (decode16 bigFirst bs)
  | .utf16 none, 0xFF :: 0xFE :: r => .ok (decode16 false r)
  | .utf16 none, 0xFE :: 0xFF :: r => .ok (decode16 true r)
  | .utf16 none, _ => if bs.length < 2 then .ok (decode16 false bs) else .error (.unmarked 16)
  | .utf32 (some bigFirst), _ => .ok (decode32 bigFirst bs)
  | .utf32 none, 0xFF :: 0xFE :: 0 :: 0 :: r => .ok (decode32 false r)
  | .utf32 none, 0 :: 0 :: 0xFE :: 0xFF :: r => .ok (decode32 true r)
  | .utf32 none, _ => if bs.length < 4 then .ok (decode32 false bs) else .error (.unmarked 32)
  | .bytes start letters, _ => .ok (bs.map (byteChar start letters))
  | .eastAsian charset, _ => match charset.decode bs with
    | some cs => .ok cs
    | none => .error .unfinished
  | .other kind, _ => .error (.inNone kind)

end Charset

end VarsAdvisor.Text
