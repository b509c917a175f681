/-
# The registry of character encodings

Every encoding with its normalized name, whether it maps bytes to text at all,
and the names that it is found under.  A *module name* is an encoding's own
spelling, an *alias* another one; the two lists are apart because a dot in a
name may stand for an underscore of an alias, but not of a module name.
-/

namespace MigrationConfig.Codec

/-- An encoding: its normalized name, whether it yields text, its own spellings
and its aliases. -/
structure Entry where
  name : String
  isText : Bool
  modules : List String
  aliases : List String

def registry : List Entry := [
  ⟨"ascii", true, ["ascii"],
    ["646", "ansi_x3.4_1968", "ansi_x3.4_1986", "ansi_x3_4_1968", "cp367", "csascii", "ibm367",
      "iso646_us", "iso_646.irv_1991", "iso_ir_6", "us", "us_ascii"]⟩,
  ⟨"base64", false, ["base64_codec"], ["base64", "base_64"]⟩,
  ⟨"big5", true, ["big5"], ["big5_tw", "csbig5", "x_mac_trad_chinese"]⟩,
  ⟨"big5hkscs", true, ["big5hkscs"], ["big5_hkscs", "hkscs"]⟩,
  ⟨"bz2", false, ["bz2_codec"], ["bz2"]⟩,
  ⟨"charmap", true, ["charmap"], []⟩,
  ⟨"cp037", true, ["cp037"],
    ["037", "csibm037", "ebcdic_cp_ca", "ebcdic_cp_nl", "ebcdic_cp_us", "ebcdic_cp_wt", "ibm037",
      "ibm039"]⟩,
  ⟨"cp1006", true, ["cp1006"], []⟩,
  ⟨"cp1026", true, ["cp1026"], ["1026", "csibm1026", "ibm1026"]⟩,
  ⟨"cp1125", true, ["cp1125"], ["1125", "cp866u", "ibm1125", "ruscii"]⟩,
  ⟨"cp1140", true, ["cp1140"], ["1140", "ibm1140"]⟩,
  ⟨"cp1250", true, ["cp1250"], ["1250", "windows_1250"]⟩,
  ⟨"cp1251", true, ["cp1251"], ["1251", "windows_1251"]⟩,
  ⟨"cp1252", true, ["cp1252"], ["1252", "windows_1252"]⟩,
  ⟨"cp1253", true, ["cp1253"], ["1253", "windows_1253"]⟩,
  ⟨"cp1254", true, ["cp1254"], ["1254", "windows_1254"]⟩,
  ⟨"cp1255", true, ["cp1255"], ["1255", "windows_1255"]⟩,
  ⟨"cp1256", true, ["cp1256"], ["1256", "windows_1256"]⟩,
  ⟨"cp1257", true, ["cp1257"], ["1257", "windows_1257"]⟩,
  ⟨"cp1258", true, ["cp1258"], ["1258", "windows_1258"]⟩,
  ⟨"cp273", true, ["cp273"], ["273", "csibm273", "ibm273"]⟩,
  ⟨"cp424", true, ["cp424"], ["424", "csibm424", "ebcdic_cp_he", "ibm424"]⟩,
  ⟨"cp437", true, ["cp437"], ["437", "cspc8codepage437", "ibm437"]⟩,
  ⟨"cp500", true, ["cp500"], ["500", "csibm500", "ebcdic_cp_be", "ebcdic_cp_ch", "ibm500"]⟩,
  ⟨"cp720", true, ["cp720"], []⟩,
  ⟨"cp737", true, ["cp737"], []⟩,
  ⟨"cp775", true, ["cp775"], ["775", "cspc775baltic", "ibm775"]⟩,
  ⟨"cp850", true, ["cp850"], ["850", "cspc850multilingual", "ibm850"]⟩,
  ⟨"cp852", true, ["cp852"], ["852", "cspcp852", "ibm852"]⟩,
  ⟨"cp855", true, ["cp855"], ["855", "csibm855", "ibm855"]⟩,
  ⟨"cp856", true, ["cp856"], []⟩,
  ⟨"cp857", true, ["cp857"], ["857", "csibm857", "ibm857"]⟩,
  ⟨"cp858", true, ["cp858"], ["858", "csibm858", "ibm858"]⟩,
  ⟨"cp860", true, ["cp860"], ["860", "csibm860", "ibm860"]⟩,
  ⟨"cp861", true, ["cp861"], ["861", "cp_is", "csibm861", "ibm861"]⟩,
  ⟨"cp862", true, ["cp862"], ["862", "cspc862latinhebrew", "ibm862"]⟩,
  ⟨"cp863", true, ["cp863"], ["863", "csibm863", "ibm863"]⟩,
  ⟨"cp864", true, ["cp864"], ["864", "csibm864", "ibm864"]⟩,
  ⟨"cp865", true, ["cp865"], ["865", "csibm865", "ibm865"]⟩,
  ⟨"cp866", true, ["cp866"], ["866", "csibm866", "ibm866"]⟩,
  ⟨"cp869", true, ["cp869"], ["869", "cp_gr", "csibm869", "ibm869"]⟩,
  ⟨"cp874", true, ["cp874"], []⟩,
  ⟨"cp875", true, ["cp875"], []⟩,
  ⟨"cp932", true, ["cp932"], ["932", "ms932", "ms_kanji", "mskanji"]⟩,
  ⟨"cp949", true, ["cp949"], ["949", "ms949", "uhc"]⟩,
  ⟨"cp950", true, ["cp950"], ["950", "ms950"]⟩,
  ⟨"euc_jis_2004", true, ["euc_jis_2004"], ["euc_jis2004", "eucjis2004", "jisx0213"]⟩,
  ⟨"euc_jisx0213", true, ["euc_jisx0213"], ["eucjisx0213"]⟩,
  ⟨"euc_jp", true, ["euc_jp"], ["eucjp", "u_jis", "ujis"]⟩,
  ⟨"euc_kr", true, ["euc_kr"],
    ["euckr", "korean", "ks_c_5601", "ks_c_5601_1987", "ks_x_1001", "ksc5601", "ksx1001",
      "x_mac_korean"]⟩,
  ⟨"gb18030", true, ["gb18030"], ["gb18030_2000"]⟩,
  ⟨"gb2312", true, ["gb2312"],
    ["chinese", "csiso58gb231280", "euc_cn", "euccn", "eucgb2312_cn", "gb2312_1980", "gb2312_80",
      "iso_ir_58", "x_mac_simp_chinese"]⟩,
  ⟨"gbk", true, ["gbk"], ["936", "cp936", "ms936"]⟩,
  ⟨"hex", false, ["hex_codec"], ["hex"]⟩,
  ⟨"hp-roman8", true, ["hp_roman8"], ["cp1051", "ibm1051", "r8", "roman8"]⟩,
  ⟨"hz", true, ["hz"], ["hz_gb", "hz_gb_2312", "hzgb"]⟩,
  ⟨"idna", true, ["idna"], []⟩,
  ⟨"iso2022_jp", true, ["iso2022_jp"], ["csiso2022jp", "iso2022jp", "iso_2022_jp"]⟩,
  ⟨"iso2022_jp_1", true, ["iso2022_jp_1"], ["iso2022jp_1", "iso_2022_jp_1"]⟩,
  ⟨"iso2022_jp_2", true, ["iso2022_jp_2"], ["iso2022jp_2", "iso_2022_jp_2"]⟩,
  ⟨"iso2022_jp_2004", true, ["iso2022_jp_2004"], ["iso2022jp_2004", "iso_2022_jp_2004"]⟩,
  ⟨"iso2022_jp_3", true, ["iso2022_jp_3"], ["iso2022jp_3", "iso_2022_jp_3"]⟩,
  ⟨"iso2022_jp_ext", true, ["iso2022_jp_ext"], ["iso2022jp_ext", "iso_2022_jp_ext"]⟩,
  ⟨"iso2022_kr", true, ["iso2022_kr"], ["csiso2022kr", "iso2022kr", "iso_2022_kr"]⟩,
  ⟨"iso8859-1", true, ["latin_1"],
    ["8859", "cp819", "csisolatin1", "ibm819", "iso8859", "iso8859_1", "iso_8859_1",
      "iso_8859_1_1987", "iso_ir_100", "l1", "latin", "latin1"]⟩,
  ⟨"iso8859-10", true, ["iso8859_10"],
    ["csisolatin6", "iso_8859_10", "iso_8859_10_1992", "iso_ir_157", "l6", "latin6"]⟩,
  ⟨"iso8859-11", true, ["iso8859_11"], ["iso_8859_11", "iso_8859_11_2001", "thai"]⟩,
  ⟨"iso8859-13", true, ["iso8859_13"], ["iso_8859_13", "l7", "latin7"]⟩,
  ⟨"iso8859-14", true, ["iso8859_14"],
    ["iso_8859_14", "iso_8859_14_1998", "iso_celtic", "iso_ir_199", "l8", "latin8"]⟩,
  ⟨"iso8859-15", true, ["iso8859_15"], ["iso_8859_15", "l9", "latin9"]⟩,
  ⟨"iso8859-16", true, ["iso8859_16"],
    ["iso_8859_16", "iso_8859_16_2001", "iso_ir_226", "l10", "latin10"]⟩,
  ⟨"iso8859-2", true, ["iso8859_2"],
    ["csisolatin2", "iso_8859_2", "iso_8859_2_1987", "iso_ir_101", "l2", "latin2"]⟩,
  ⟨"iso8859-3", true, ["iso8859_3"],
    ["csisolatin3", "iso_8859_3", "iso_8859_3_1988", "iso_ir_109", "l3", "latin3"]⟩,
  ⟨"iso8859-4", true, ["iso8859_4"],
    ["csisolatin4", "iso_8859_4", "iso_8859_4_1988", "iso_ir_110", "l4", "latin4"]⟩,
  ⟨"iso8859-5", true, ["iso8859_5"],
    ["csisolatincyrillic", "cyrillic", "iso_8859_5", "iso_8859_5_1988", "iso_ir_144"]⟩,
  ⟨"iso8859-6", true, ["iso8859_6"],
    ["arabic", "asmo_708", "csisolatinarabic", "ecma_114", "iso_8859_6", "iso_8859_6_1987",
      "iso_ir_127"]⟩,
  ⟨"iso8859-7", true, ["iso8859_7"],
    ["csisolatingreek", "ecma_118", "elot_928", "greek", "greek8", "iso_8859_7",
      "iso_8859_7_1987", "iso_ir_126"]⟩,
  ⟨"iso8859-8", true, ["iso8859_8"],
    ["csisolatinhebrew", "hebrew", "iso_8859_8", "iso_8859_8_1988", "iso_ir_138"]⟩,
  ⟨"iso8859-9", true, ["iso8859_9"],
    ["csisolatin5", "iso_8859_9", "iso_8859_9_1989", "iso_ir_148", "l5", "latin5"]⟩,
  ⟨"johab", true, ["johab"], ["cp1361", "ms1361"]⟩,
  ⟨"koi8-r", true, ["koi8_r"], ["cskoi8r"]⟩,
  ⟨"koi8-t", true, ["koi8_t"], []⟩,
  ⟨"koi8-u", true, ["koi8_u"], []⟩,
  ⟨"kz1048", true, ["kz1048"], ["kz_1048", "rk1048", "strk1048_2002"]⟩,
  ⟨"mac-arabic", true, ["mac_arabic"], []⟩,
  ⟨"mac-croatian", true, ["mac_croatian"], []⟩,
  ⟨"mac-cyrillic", true, ["mac_cyrillic"], ["maccyrillic"]⟩,
  ⟨"mac-farsi", true, ["mac_farsi"], []⟩,
  ⟨"mac-greek", true, ["mac_greek"], ["macgreek"]⟩,
  ⟨"mac-iceland", true, ["mac_iceland"], ["maciceland"]⟩,
  ⟨"mac-latin2", true, ["mac_latin2"], ["mac_centeuro", "maccentraleurope", "maclatin2"]⟩,
  ⟨"mac-roman", true, ["mac_roman"], ["macintosh", "macroman"]⟩,
  ⟨"mac-romanian", true, ["mac_romanian"], []⟩,
  ⟨"mac-turkish", true, ["mac_turkish"], ["macturkish"]⟩,
  ⟨"palmos", true, ["palmos"], []⟩,
  ⟨"ptcp154", true, ["ptcp154"], ["cp154", "csptcp154", "cyrillic_asian", "pt154"]⟩,
  ⟨"punycode", true, ["punycode"], []⟩,
  ⟨"quopri", false, ["quopri_codec"], ["quopri", "quoted_printable", "quotedprintable"]⟩,
  ⟨"raw-unicode-escape", true, ["raw_unicode_escape"], []⟩,
  ⟨"rot-13", false, ["rot_13"], ["rot13"]⟩,
  ⟨"shift_jis", true, ["shift_jis"], ["csshiftjis", "s_jis", "shiftjis", "sjis", "x_mac_japanese"]⟩,
  ⟨"shift_jis_2004", true, ["shift_jis_2004"], ["s_jis_2004", "shiftjis2004", "sjis_2004"]⟩,
  ⟨"shift_jisx0213", true, ["shift_jisx0213"], ["s_jisx0213", "shiftjisx0213", "sjisx0213"]⟩,
  ⟨"tis-620", true, ["tis_620"],
    ["iso_ir_166", "tis620", "tis_620_0", "tis_620_2529_0", "tis_620_2529_1"]⟩,
  ⟨"undefined", true, ["undefined"], []⟩,
  ⟨"unicode-escape", true, ["unicode_escape"], []⟩,
  ⟨"utf-16", true, ["utf_16"], ["u16", "utf16"]⟩,
  ⟨"utf-16-be", true, ["utf_16_be"], ["unicodebigunmarked", "utf_16be"]⟩,
  ⟨"utf-16-le", true, ["utf_16_le"], ["unicodelittleunmarked", "utf_16le"]⟩,
  ⟨"utf-32", true, ["utf_32"], ["u32", "utf32"]⟩,
  ⟨"utf-32-be", true, ["utf_32_be"], ["utf_32be"]⟩,
  ⟨"utf-32-le", true, ["utf_32_le"], ["utf_32le"]⟩,
  ⟨"utf-7", true, ["utf_7"], ["u7", "unicode_1_1_utf_7", "utf7"]⟩,
  ⟨"utf-8", true, ["utf_8"], ["cp65001", "u8", "utf", "utf8", "utf8_ucs2", "utf8_ucs4"]⟩,
  ⟨"utf-8-sig", true, ["utf_8_sig"], []⟩,
  ⟨"uu", false, ["uu_codec"], ["uu"]⟩,
  ⟨"zlib", false, ["zlib_codec"], ["zip", "zlib"]⟩]

end MigrationConfig.Codec
