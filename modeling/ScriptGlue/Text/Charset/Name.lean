import ScriptGlue.Text.Charset.Cyrillic
import ScriptGlue.Text.Charset.Eastern
import ScriptGlue.Text.Charset.Greek
import ScriptGlue.Text.Charset.Latin
import ScriptGlue.Text.Search

/-!
# Names of encodings

The encodings that go by a name. Case does not matter in a name, nor which marks stand between its parts;
an encoding has a name of its own and may have others beside it.
-/

namespace ScriptGlue.Text

/-- What an encoding does with bytes. -/
inductive Coding where
  /-- Every byte spells a character of a set. -/
  | charset (set : Charset)
  /-- Characters are spelled by several bytes. -/
  | wide
  /-- Bytes below 128 spell other characters than in ASCII. -/
  | foreign
  /-- Bytes spell other bytes and no text. -/
  | transform
  /-- Bytes that spell nothing are refused, for the given reason. -/
  | refusing (reason : String)
  /-- Bytes from 128 on are refused. -/
  | strict
  deriving DecidableEq, Repr

namespace Coding

/-- The encodings: the name of each, its other names, and what it does. -/
def named : List (String × String × Coding) :=
  [ ("ascii", "646 ansi_x3.4_1968 ansi_x3.4_1986 ansi_x3_4_1968 cp367 csascii ibm367 iso646_us " ++
      "iso_646.irv_1991 iso_ir_6 us us_ascii",
      .charset .ascii),
    ("base64_codec", "base64 base_64", .transform),
    ("big5", "big5_tw csbig5 x_mac_trad_chinese", .wide),
    ("big5hkscs", "big5_hkscs hkscs", .wide),
    ("bz2_codec", "bz2", .transform),
    ("charmap", "", .charset .latin1),
    ("cp037", "037 csibm037 ebcdic_cp_ca ebcdic_cp_nl ebcdic_cp_us ebcdic_cp_wt ibm037 ibm039", .foreign),
    ("cp1006", "", .charset .cp1006),
    ("cp1026", "1026 csibm1026 ibm1026", .foreign),
    ("cp1125", "1125 cp866u ibm1125 ruscii", .charset .cp1125),
    ("cp1140", "1140 ibm1140", .foreign),
    ("cp1250", "1250 windows_1250", .charset .cp1250),
    ("cp1251", "1251 windows_1251", .charset .cp1251),
    ("cp1252", "1252 windows_1252", .charset .cp1252),
    ("cp1253", "1253 windows_1253", .charset .cp1253),
    ("cp1254", "1254 windows_1254", .charset .cp1254),
    ("cp1255", "1255 windows_1255", .charset .cp1255),
    ("cp1256", "1256 windows_1256", .charset .cp1256),
    ("cp1257", "1257 windows_1257", .charset .cp1257),
    ("cp1258", "1258 windows_1258", .charset .cp1258),
    ("cp273", "273 csibm273 ibm273", .foreign),
    ("cp424", "424 csibm424 ebcdic_cp_he ibm424", .foreign),
    ("cp437", "437 cspc8codepage437 ibm437", .charset .cp437),
    ("cp500", "500 csibm500 ebcdic_cp_be ebcdic_cp_ch ibm500", .foreign),
    ("cp720", "", .charset .cp720),
    ("cp737", "", .charset .cp737),
    ("cp775", "775 cspc775baltic ibm775", .charset .cp775),
    ("cp850", "850 cspc850multilingual ibm850", .charset .cp850),
    ("cp852", "852 cspcp852 ibm852", .charset .cp852),
    ("cp855", "855 csibm855 ibm855", .charset .cp855),
    ("cp856", "", .charset .cp856),
    ("cp857", "857 csibm857 ibm857", .charset .cp857),
    ("cp858", "858 csibm858 ibm858", .charset .cp858),
    ("cp860", "860 csibm860 ibm860", .charset .cp860),
    ("cp861", "861 cp_is csibm861 ibm861", .charset .cp861),
    ("cp862", "862 cspc862latinhebrew ibm862", .charset .cp862),
    ("cp863", "863 csibm863 ibm863", .charset .cp863),
    ("cp864", "864 csibm864 ibm864", .foreign),
    ("cp865", "865 csibm865 ibm865", .charset .cp865),
    ("cp866", "866 csibm866 ibm866", .charset .cp866),
    ("cp869", "869 cp_gr csibm869 ibm869", .charset .cp869),
    ("cp874", "", .charset .cp874),
    ("cp875", "", .foreign),
    ("cp932", "932 ms932 ms_kanji mskanji", .wide),
    ("cp949", "949 ms949 uhc", .wide),
    ("cp950", "950 ms950", .wide),
    ("euc_jis_2004", "euc_jis2004 eucjis2004 jisx0213", .wide),
    ("euc_jisx0213", "eucjisx0213", .wide),
    ("euc_jp", "eucjp u_jis ujis", .wide),
    ("euc_kr", "euckr korean ks_c_5601 ks_c_5601_1987 ks_x_1001 ksc5601 ksx1001 x_mac_korean", .wide),
    ("gb18030", "gb18030_2000", .wide),
    ("gb2312", "chinese csiso58gb231280 euc_cn euccn eucgb2312_cn gb2312_1980 gb2312_80 iso_ir_58 " ++
      "x_mac_simp_chinese",
      .wide),
    ("gbk", "936 cp936 ms936", .wide),
    ("hex_codec", "hex", .transform),
    ("hp_roman8", "cp1051 csHPRoman8 ibm1051 r8 roman8", .charset .hpRoman8),
    ("hz", "hz_gb hz_gb_2312 hzgb", .charset { Charset.ascii with missing := ['~'] }),
    ("idna", "", .refusing "Unsupported error handling replace"),
    ("iso2022_jp", "csiso2022jp iso2022jp iso_2022_jp", .charset .ascii),
    ("iso2022_jp_1", "iso2022jp_1 iso_2022_jp_1", .charset .ascii),
    ("iso2022_jp_2", "iso2022jp_2 iso_2022_jp_2", .charset .ascii),
    ("iso2022_jp_2004", "iso2022jp_2004 iso_2022_jp_2004", .charset .ascii),
    ("iso2022_jp_3", "iso2022jp_3 iso_2022_jp_3", .charset .ascii),
    ("iso2022_jp_ext", "iso2022jp_ext iso_2022_jp_ext", .charset .ascii),
    ("iso2022_kr", "csiso2022kr iso2022kr iso_2022_kr", .wide),
    ("iso8859_1", "", .charset .latin1),
    ("iso8859_10", "csisolatin6 iso_8859_10 iso_8859_10_1992 iso_ir_157 l6 latin6", .charset .iso8859Part10),
    ("iso8859_11", "iso_8859_11 iso_8859_11_2001 thai", .charset .iso8859Part11),
    ("iso8859_13", "iso_8859_13 l7 latin7", .charset .iso8859Part13),
    ("iso8859_14", "iso_8859_14 iso_8859_14_1998 iso_celtic iso_ir_199 l8 latin8", .charset .iso8859Part14),
    ("iso8859_15", "iso_8859_15 l9 latin9", .charset .iso8859Part15),
    ("iso8859_16", "iso_8859_16 iso_8859_16_2001 iso_ir_226 l10 latin10", .charset .iso8859Part16),
    ("iso8859_2", "csisolatin2 iso_8859_2 iso_8859_2_1987 iso_ir_101 l2 latin2", .charset .iso8859Part2),
    ("iso8859_3", "csisolatin3 iso_8859_3 iso_8859_3_1988 iso_ir_109 l3 latin3", .charset .iso8859Part3),
    ("iso8859_4", "csisolatin4 iso_8859_4 iso_8859_4_1988 iso_ir_110 l4 latin4", .charset .iso8859Part4),
    ("iso8859_5", "csisolatincyrillic cyrillic iso_8859_5 iso_8859_5_1988 iso_ir_144",
      .charset .iso8859Part5),
    ("iso8859_6", "arabic asmo_708 csisolatinarabic ecma_114 iso_8859_6 iso_8859_6_1987 iso_ir_127",
      .charset .iso8859Part6),
    ("iso8859_7", "csisolatingreek ecma_118 elot_928 greek greek8 iso_8859_7 iso_8859_7_1987 iso_ir_126",
      .charset .iso8859Part7),
    ("iso8859_8", "csisolatinhebrew hebrew iso_8859_8 iso_8859_8_1988 iso_ir_138", .charset .iso8859Part8),
    ("iso8859_9", "csisolatin5 iso_8859_9 iso_8859_9_1989 iso_ir_148 l5 latin5", .charset .iso8859Part9),
    ("johab", "cp1361 ms1361", .wide),
    ("koi8_r", "cskoi8r", .charset .koi8R),
    ("koi8_t", "", .charset .koi8T),
    ("koi8_u", "", .charset .koi8U),
    ("kz1048", "kz_1048 rk1048 strk1048_2002", .charset .kz1048),
    ("latin_1", "8859 cp819 csisolatin1 ibm819 iso8859 iso8859_1 iso_8859_1 iso_8859_1_1987 iso_ir_100 l1 " ++
      "latin latin1",
      .charset .latin1),
    ("mac_arabic", "", .foreign),
    ("mac_croatian", "", .charset .macCroatian),
    ("mac_cyrillic", "maccyrillic", .charset .macCyrillic),
    ("mac_farsi", "", .foreign),
    ("mac_greek", "macgreek", .charset .macGreek),
    ("mac_iceland", "maciceland", .charset .macIceland),
    ("mac_latin2", "mac_centeuro maccentraleurope maclatin2", .charset .macLatin2),
    ("mac_roman", "macintosh macroman", .charset .macRoman),
    ("mac_romanian", "", .charset .macRomanian),
    ("mac_turkish", "macturkish", .charset .macTurkish),
    ("palmos", "", .charset .palmos),
    ("ptcp154", "cp154 csptcp154 cyrillic_asian pt154", .charset .ptcp154),
    ("punycode", "", .strict),
    ("quopri_codec", "quopri quoted_printable quotedprintable", .transform),
    ("raw_unicode_escape", "", .charset .latin1),
    ("rot_13", "rot13", .transform),
    ("shift_jis", "csshiftjis s_jis shiftjis sjis x_mac_japanese", .wide),
    ("shift_jis_2004", "s_jis_2004 shiftjis2004 sjis_2004", .wide),
    ("shift_jisx0213", "s_jisx0213 shiftjisx0213 sjisx0213", .wide),
    ("tis_620", "iso_ir_166 tis620 tis_620_0 tis_620_2529_0 tis_620_2529_1", .charset .tis620),
    ("undefined", "", .refusing "undefined encoding"),
    ("unicode_escape", "", .charset .latin1),
    ("utf_16", "u16 utf16", .wide),
    ("utf_16_be", "unicodebigunmarked utf_16be", .wide),
    ("utf_16_le", "unicodelittleunmarked utf_16le", .wide),
    ("utf_32", "u32 utf32", .wide),
    ("utf_32_be", "utf_32be", .wide),
    ("utf_32_le", "utf_32le", .wide),
    ("utf_7", "u7 unicode_1_1_utf_7 utf7", .wide),
    ("utf_8", "cp65001 u8 utf utf8 utf8_ucs2 utf8_ucs4", .charset .ascii),
    ("utf_8_sig", "", .charset .ascii),
    ("uu_codec", "uu", .transform),
    ("zlib_codec", "zip zlib", .transform)]

/-- The name in lower case, with one underscore for the marks between its parts; a dot belongs to a part. -/
def plainName (name : String) : List Char :=
  ['_'].intercalate (parts (name.toList.map Char.toLower))
where
  /-- The runs of letters, digits and dots. -/
  parts (s : List Char) : List (List Char) :=
    (splitAtChar '_' (s.map fun c => if c.isAlphanum || c == '.' then c else '_')).filter (!·.isEmpty)

/-- The encoding of the given name. A dot in the name may stand for an underscore of one of the other
names. -/
def ofName? (name : String) : Option Coding :=
  let plain := plainName name
  let other (s : List Char) : Option (String × String × Coding) :=
    named.find? fun (_, others, _) => (splitAtChar ' ' others.toList).contains s
  let own : Option (String × String × Coding) := named.find? (·.1 == String.ofList plain)
  (((other plain).or (other (plain.map fun c => if c == '.' then '_' else c))).or own).map (·.2.2)

end Coding

end ScriptGlue.Text
