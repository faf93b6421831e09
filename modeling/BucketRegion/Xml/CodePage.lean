import BucketRegion.Text.Ranges
import BucketRegion.Text.Split

/-!
# Code pages

Encodings that take one octet for a character and agree with ASCII on the characters of markup,
and the names under which they and other encodings are known.
-/

set_option autoImplicit false

namespace BucketRegion.Xml

/-- What a name of an encoding stands for. -/
inductive NamedEncoding where
  /-- One octet for a character: the code points of the octets, where they have one. -/
  | page (codes : Array (Option Nat))
  /-- Several octets for a character. -/
  | multiByte
  /-- Characters of markup have octets of their own. -/
  | foreign
  /-- Octets for octets. -/
  | binary
  /-- Labels of host names. -/
  | hostLabels
  /-- Labels of host names in their ASCII form. -/
  | asciiLabels
  /-- No text at all. -/
  | empty

namespace CodePage

/-- A code page as it is written: its names, and for each run of octets the code point of the first.
A run without a code point is undefined, and so are octets above ASCII that are in no run. -/
structure Entry where
  names : String
  runs : String

/-- The octets of a run, and the code point of the first. -/
def readRun (run : String) : Nat × Nat × Option Nat :=
  match run.splitOn "=" with
  | [octets, code] =>
      let code? := if code.isEmpty then none else some (Text.hexNumber code.toList)
      match octets.splitOn "-" with
      | [first, last] => (Text.hexNumber first.toList, Text.hexNumber last.toList, code?)
      | _ => (Text.hexNumber octets.toList, Text.hexNumber octets.toList, code?)
  | _ => (256, 0, none)

/-- The code point of an octet. -/
def codeOf? (runs : List (Nat × Nat × Option Nat)) (octet : Nat) : Option Nat :=
  match runs.find? fun (first, last, _) => first ≤ octet && octet ≤ last with
  | some (first, _, code?) => code?.map (· + (octet - first))
  | none => if octet < 0x80 then some octet else none

/-- The code points of all octets. -/
def Entry.codes (entry : Entry) : Array (Option Nat) :=
  ((List.range 256).map (codeOf? ((Text.words entry.runs).map readRun))).toArray

/-- Whether a list of names has this one. A name with a star is not known with points in it. -/
def isNamed (names : String) (name : String) : Bool :=
  (Text.words names).any fun entry => entry == name || entry == name ++ "*"

/-- Whether a list of names has this one, whose points were read as low lines. -/
def isDotted (names : String) (name : String) : Bool :=
  (Text.words names).contains name

/-- Encodings with several octets for a character. -/
def multiByteNames : String :=
  "big5* big5_hkscs big5_tw big5hkscs* chinese cp1361 cp932* cp936 cp949* cp950* csbig5
    csiso2022kr csiso58gb231280 csshiftjis euc_cn euc_jis2004 euc_jis_2004* euc_jisx0213*
    euc_jp* euc_kr* euccn eucgb2312_cn eucjis2004 eucjisx0213 eucjp euckr gb18030*
    gb18030_2000 gb2312* gb2312_1980 gb2312_80 gbk* hkscs iso2022_kr* iso2022kr iso_2022_kr
    iso_ir_58 jisx0213 johab* korean ks_c_5601 ks_c_5601_1987 ks_x_1001 ksc5601 ksx1001 ms1361
    ms932 ms936 ms949 ms950 ms_kanji mskanji s_jis s_jis_2004 s_jisx0213 shift_jis*
    shift_jis_2004* shift_jisx0213* shiftjis shiftjis2004 shiftjisx0213 sjis sjis_2004
    sjisx0213 u16 u32 u7 u_jis uhc ujis unicode_1_1_utf_7 unicodebigunmarked
    unicodelittleunmarked utf16 utf32 utf7 utf_16* utf_16_be* utf_16_le* utf_16be utf_16le
    utf_32* utf_32_be* utf_32_le* utf_32be utf_32le utf_7* x_mac_japanese x_mac_korean
    x_mac_simp_chinese x_mac_trad_chinese"

/-- Encodings that do not agree with ASCII on the characters of markup. -/
def foreignNames : String :=
  "cp037* cp1026* cp1140* cp273* cp424* cp500* cp864* cp875* csibm037 csibm1026 csibm273
    csibm424 csibm500 csibm864 ebcdic_cp_be ebcdic_cp_ca ebcdic_cp_ch ebcdic_cp_he
    ebcdic_cp_nl ebcdic_cp_us ebcdic_cp_wt ibm037 ibm039 ibm1026 ibm1140 ibm273 ibm424 ibm500
    ibm864 mac_arabic* mac_farsi*"

/-- Encodings of octets by octets. -/
def binaryNames : String :=
  "base64 base64_codec* base_64 bz2 bz2_codec* hex hex_codec* quopri quopri_codec*
    quoted_printable quotedprintable rot13 rot_13* uu uu_codec* zip zlib zlib_codec*"

/-- The code pages. -/
def entries : List Entry := [
  ⟨"cp1125* cp866u ibm1125 ruscii",
    "80-af=410 b0-b2=2591 b3=2502 b4=2524 b5-b6=2561 b7=2556 b8=2555 b9=2563 ba=2551 bb=2557
    bc=255d bd=255c be=255b bf=2510 c0=2514 c1=2534 c2=252c c3=251c c4=2500 c5=253c c6-c7=255e
    c8=255a c9=2554 ca=2569 cb=2566 cc=2560 cd=2550 ce=256c cf-d0=2567 d1-d2=2564 d3=2559
    d4=2558 d5-d6=2552 d7=256b d8=256a d9=2518 da=250c db=2588 dc=2584 dd=258c de=2590 df=2580
    e0-ef=440 f0=401 f1=451 f2-f3=490 f4=404 f5=454 f6=406 f7=456 f8=407 f9=457 fa=b7 fb=221a
    fc=2116 fd=a4 fe=25a0 ff=a0"⟩,
  ⟨"cp1250* windows_1250",
    "80=20ac 82=201a 84=201e 85=2026 86-87=2020 89=2030 8a=160 8b=2039 8c=15a 8d=164 8e=17d
    8f=179 91-92=2018 93-94=201c 95=2022 96-97=2013 99=2122 9a=161 9b=203a 9c=15b 9d=165
    9e=17e 9f=17a a0=a0 a1=2c7 a2=2d8 a3=141 a4=a4 a5=104 a6-a9=a6 aa=15e ab-ae=ab af=17b
    b0-b1=b0 b2=2db b3=142 b4-b8=b4 b9=105 ba=15f bb=bb bc=13d bd=2dd be=13e bf=17c c0=154
    c1-c2=c1 c3=102 c4=c4 c5=139 c6=106 c7=c7 c8=10c c9=c9 ca=118 cb=cb cc=11a cd-ce=cd cf=10e
    d0=110 d1=143 d2=147 d3-d4=d3 d5=150 d6-d7=d6 d8=158 d9=16e da=da db=170 dc-dd=dc de=162
    df=df e0=155 e1-e2=e1 e3=103 e4=e4 e5=13a e6=107 e7=e7 e8=10d e9=e9 ea=119 eb=eb ec=11b
    ed-ee=ed ef=10f f0=111 f1=144 f2=148 f3-f4=f3 f5=151 f6-f7=f6 f8=159 f9=16f fa=fa fb=171
    fc-fd=fc fe=163 ff=2d9"⟩,
  ⟨"cp1251* windows_1251",
    "80-81=402 82=201a 83=453 84=201e 85=2026 86-87=2020 88=20ac 89=2030 8a=409 8b=2039 8c=40a
    8d=40c 8e=40b 8f=40f 90=452 91-92=2018 93-94=201c 95=2022 96-97=2013 99=2122 9a=459
    9b=203a 9c=45a 9d=45c 9e=45b 9f=45f a0=a0 a1=40e a2=45e a3=408 a4=a4 a5=490 a6-a7=a6
    a8=401 a9=a9 aa=404 ab-ae=ab af=407 b0-b1=b0 b2=406 b3=456 b4=491 b5-b7=b5 b8=451 b9=2116
    ba=454 bb=bb bc=458 bd=405 be=455 bf=457 c0-ff=410"⟩,
  ⟨"cp1252* windows_1252",
    "80=20ac 82=201a 83=192 84=201e 85=2026 86-87=2020 88=2c6 89=2030 8a=160 8b=2039 8c=152
    8e=17d 91-92=2018 93-94=201c 95=2022 96-97=2013 98=2dc 99=2122 9a=161 9b=203a 9c=153
    9e=17e 9f=178 a0-ff=a0"⟩,
  ⟨"cp1253* windows_1253",
    "80=20ac 82=201a 83=192 84=201e 85=2026 86-87=2020 89=2030 8b=2039 91-92=2018 93-94=201c
    95=2022 96-97=2013 99=2122 9b=203a a0=a0 a1-a2=385 a3-a9=a3 ab-ae=ab af=2015 b0-b3=b0
    b4=384 b5-b7=b5 b8-ba=388 bb=bb bc=38c bd=bd be-d1=38e d3-fe=3a3"⟩,
  ⟨"cp1254* windows_1254",
    "80=20ac 82=201a 83=192 84=201e 85=2026 86-87=2020 88=2c6 89=2030 8a=160 8b=2039 8c=152
    91-92=2018 93-94=201c 95=2022 96-97=2013 98=2dc 99=2122 9a=161 9b=203a 9c=153 9f=178
    a0-cf=a0 d0=11e d1-dc=d1 dd=130 de=15e df-ef=df f0=11f f1-fc=f1 fd=131 fe=15f ff=ff"⟩,
  ⟨"cp1255* windows_1255",
    "80=20ac 82=201a 83=192 84=201e 85=2026 86-87=2020 88=2c6 89=2030 8b=2039 91-92=2018
    93-94=201c 95=2022 96-97=2013 98=2dc 99=2122 9b=203a a0-a3=a0 a4=20aa a5-a9=a5 aa=d7
    ab-b9=ab ba=f7 bb-bf=bb c0-c9=5b0 cb-d3=5bb d4-d8=5f0 e0-fa=5d0 fd-fe=200e"⟩,
  ⟨"cp1256* windows_1256",
    "80=20ac 81=67e 82=201a 83=192 84=201e 85=2026 86-87=2020 88=2c6 89=2030 8a=679 8b=2039
    8c=152 8d=686 8e=698 8f=688 90=6af 91-92=2018 93-94=201c 95=2022 96-97=2013 98=6a9 99=2122
    9a=691 9b=203a 9c=153 9d-9e=200c 9f=6ba a0=a0 a1=60c a2-a9=a2 aa=6be ab-b9=ab ba=61b
    bb-be=bb bf=61f c0=6c1 c1-d6=621 d7=d7 d8-db=637 dc-df=640 e0=e0 e1=644 e2=e2 e3-e6=645
    e7-eb=e7 ec-ed=649 ee-ef=ee f0-f3=64b f4=f4 f5-f6=64f f7=f7 f8=651 f9=f9 fa=652 fb-fc=fb
    fd-fe=200e ff=6d2"⟩,
  ⟨"cp1257* windows_1257",
    "80=20ac 82=201a 84=201e 85=2026 86-87=2020 89=2030 8b=2039 8d=a8 8e=2c7 8f=b8 91-92=2018
    93-94=201c 95=2022 96-97=2013 99=2122 9b=203a 9d=af 9e=2db a0=a0 a2-a4=a2 a6-a7=a6 a8=d8
    a9=a9 aa=156 ab-ae=ab af=c6 b0-b7=b0 b8=f8 b9=b9 ba=157 bb-be=bb bf=e6 c0=104 c1=12e
    c2=100 c3=106 c4-c5=c4 c6=118 c7=112 c8=10c c9=c9 ca=179 cb=116 cc=122 cd=136 ce=12a
    cf=13b d0=160 d1=143 d2=145 d3=d3 d4=14c d5-d7=d5 d8=172 d9=141 da=15a db=16a dc=dc dd=17b
    de=17d df=df e0=105 e1=12f e2=101 e3=107 e4-e5=e4 e6=119 e7=113 e8=10d e9=e9 ea=17a eb=117
    ec=123 ed=137 ee=12b ef=13c f0=161 f1=144 f2=146 f3=f3 f4=14d f5-f7=f5 f8=173 f9=142
    fa=15b fb=16b fc=fc fd=17c fe=17e ff=2d9"⟩,
  ⟨"cp1258* windows_1258",
    "80=20ac 82=201a 83=192 84=201e 85=2026 86-87=2020 88=2c6 89=2030 8b=2039 8c=152 91-92=2018
    93-94=201c 95=2022 96-97=2013 98=2dc 99=2122 9b=203a 9c=153 9f=178 a0-c2=a0 c3=102
    c4-cb=c4 cc=300 cd-cf=cd d0=110 d1=d1 d2=309 d3-d4=d3 d5=1a0 d6-dc=d6 dd=1af de=303
    df-e2=df e3=103 e4-eb=e4 ec=301 ed-ef=ed f0=111 f1=f1 f2=323 f3-f4=f3 f5=1a1 f6-fc=f6
    fd=1b0 fe=20ab ff=ff"⟩,
  ⟨"cp437* cspc8codepage437 ibm437",
    "80=c7 81=fc 82=e9 83=e2 84=e4 85=e0 86=e5 87=e7 88-89=ea 8a=e8 8b=ef 8c=ee 8d=ec 8e-8f=c4
    90=c9 91=e6 92=c6 93=f4 94=f6 95=f2 96=fb 97=f9 98=ff 99=d6 9a=dc 9b-9c=a2 9d=a5 9e=20a7
    9f=192 a0=e1 a1=ed a2=f3 a3=fa a4=f1 a5=d1 a6=aa a7=ba a8=bf a9=2310 aa=ac ab=bd ac=bc
    ad=a1 ae=ab af=bb b0-b2=2591 b3=2502 b4=2524 b5-b6=2561 b7=2556 b8=2555 b9=2563 ba=2551
    bb=2557 bc=255d bd=255c be=255b bf=2510 c0=2514 c1=2534 c2=252c c3=251c c4=2500 c5=253c
    c6-c7=255e c8=255a c9=2554 ca=2569 cb=2566 cc=2560 cd=2550 ce=256c cf-d0=2567 d1-d2=2564
    d3=2559 d4=2558 d5-d6=2552 d7=256b d8=256a d9=2518 da=250c db=2588 dc=2584 dd=258c de=2590
    df=2580 e0=3b1 e1=df e2=393 e3=3c0 e4=3a3 e5=3c3 e6=b5 e7=3c4 e8=3a6 e9=398 ea=3a9 eb=3b4
    ec=221e ed=3c6 ee=3b5 ef=2229 f0=2261 f1=b1 f2=2265 f3=2264 f4-f5=2320 f6=f7 f7=2248 f8=b0
    f9=2219 fa=b7 fb=221a fc=207f fd=b2 fe=25a0 ff=a0"⟩,
  ⟨"ansi_x3.4_1968 ansi_x3.4_1986 ansi_x3_4_1968 ascii* cp367 cp65001 csascii csiso2022jp
      ibm367 iso2022_jp* iso2022_jp_1* iso2022_jp_2* iso2022_jp_2004* iso2022_jp_3*
      iso2022_jp_ext* iso2022jp iso2022jp_1 iso2022jp_2 iso2022jp_2004 iso2022jp_3
      iso2022jp_ext iso646_us iso_2022_jp iso_2022_jp_1 iso_2022_jp_2 iso_2022_jp_2004
      iso_2022_jp_3 iso_2022_jp_ext iso_646.irv_1991 iso_ir_6 u8 us us_ascii utf utf8
      utf8_ucs2 utf8_ucs4 utf_8* utf_8_sig*",
    ""⟩,
  ⟨"cp775* cspc775baltic ibm775",
    "80=106 81=fc 82=e9 83=101 84=e4 85=123 86=e5 87=107 88=142 89=113 8a-8b=156 8c=12b 8d=179
    8e-8f=c4 90=c9 91=e6 92=c6 93=14d 94=f6 95=122 96=a2 97-98=15a 99=d6 9a=dc 9b=f8 9c=a3
    9d=d8 9e=d7 9f=a4 a0=100 a1=12a a2=f3 a3-a4=17b a5=17a a6=201d a7=a6 a8=a9 a9=ae aa=ac
    ab=bd ac=bc ad=141 ae=ab af=bb b0-b2=2591 b3=2502 b4=2524 b5=104 b6=10c b7=118 b8=116
    b9=2563 ba=2551 bb=2557 bc=255d bd=12e be=160 bf=2510 c0=2514 c1=2534 c2=252c c3=251c
    c4=2500 c5=253c c6=172 c7=16a c8=255a c9=2554 ca=2569 cb=2566 cc=2560 cd=2550 ce=256c
    cf=17d d0=105 d1=10d d2=119 d3=117 d4=12f d5=161 d6=173 d7=16b d8=17e d9=2518 da=250c
    db=2588 dc=2584 dd=258c de=2590 df=2580 e0=d3 e1=df e2=14c e3=143 e4=f5 e5=d5 e6=b5 e7=144
    e8-e9=136 ea-eb=13b ec=146 ed=112 ee=145 ef=2019 f0=ad f1=b1 f2=201c f3=be f4=b6 f5=a7
    f6=f7 f7=201e f8=b0 f9=2219 fa=b7 fb=b9 fc=b3 fd=b2 fe=25a0 ff=a0"⟩,
  ⟨"cp850* cspc850multilingual ibm850",
    "80=c7 81=fc 82=e9 83=e2 84=e4 85=e0 86=e5 87=e7 88-89=ea 8a=e8 8b=ef 8c=ee 8d=ec 8e-8f=c4
    90=c9 91=e6 92=c6 93=f4 94=f6 95=f2 96=fb 97=f9 98=ff 99=d6 9a=dc 9b=f8 9c=a3 9d=d8 9e=d7
    9f=192 a0=e1 a1=ed a2=f3 a3=fa a4=f1 a5=d1 a6=aa a7=ba a8=bf a9=ae aa=ac ab=bd ac=bc ad=a1
    ae=ab af=bb b0-b2=2591 b3=2502 b4=2524 b5-b6=c1 b7=c0 b8=a9 b9=2563 ba=2551 bb=2557
    bc=255d bd=a2 be=a5 bf=2510 c0=2514 c1=2534 c2=252c c3=251c c4=2500 c5=253c c6=e3 c7=c3
    c8=255a c9=2554 ca=2569 cb=2566 cc=2560 cd=2550 ce=256c cf=a4 d0=f0 d1=d0 d2-d3=ca d4=c8
    d5=131 d6-d8=cd d9=2518 da=250c db=2588 dc=2584 dd=a6 de=cc df=2580 e0=d3 e1=df e2=d4
    e3=d2 e4=f5 e5=d5 e6=b5 e7=fe e8=de e9-ea=da eb=d9 ec=fd ed=dd ee=af ef=b4 f0=ad f1=b1
    f2=2017 f3=be f4=b6 f5=a7 f6=f7 f7=b8 f8=b0 f9=a8 fa=b7 fb=b9 fc=b3 fd=b2 fe=25a0 ff=a0"⟩,
  ⟨"cp852* cspcp852 ibm852",
    "80=c7 81=fc 82=e9 83=e2 84=e4 85=16f 86=107 87=e7 88=142 89=eb 8a-8b=150 8c=ee 8d=179
    8e=c4 8f=106 90=c9 91-92=139 93=f4 94=f6 95-96=13d 97-98=15a 99=d6 9a=dc 9b-9c=164 9d=141
    9e=d7 9f=10d a0=e1 a1=ed a2=f3 a3=fa a4-a5=104 a6-a7=17d a8-a9=118 aa=ac ab=17a ac=10c
    ad=15f ae=ab af=bb b0-b2=2591 b3=2502 b4=2524 b5-b6=c1 b7=11a b8=15e b9=2563 ba=2551
    bb=2557 bc=255d bd-be=17b bf=2510 c0=2514 c1=2534 c2=252c c3=251c c4=2500 c5=253c
    c6-c7=102 c8=255a c9=2554 ca=2569 cb=2566 cc=2560 cd=2550 ce=256c cf=a4 d0=111 d1=110
    d2=10e d3=cb d4=10f d5=147 d6-d7=cd d8=11b d9=2518 da=250c db=2588 dc=2584 dd=162 de=16e
    df=2580 e0=d3 e1=df e2=d4 e3-e4=143 e5=148 e6-e7=160 e8=154 e9=da ea=155 eb=170 ec=fd
    ed=dd ee=163 ef=b4 f0=ad f1=2dd f2=2db f3=2c7 f4=2d8 f5=a7 f6=f7 f7=b8 f8=b0 f9=a8 fa=2d9
    fb=171 fc-fd=158 fe=25a0 ff=a0"⟩,
  ⟨"cp855* csibm855 ibm855",
    "80=452 81=402 82=453 83=403 84=451 85=401 86=454 87=404 88=455 89=405 8a=456 8b=406 8c=457
    8d=407 8e=458 8f=408 90=459 91=409 92=45a 93=40a 94=45b 95=40b 96=45c 97=40c 98=45e 99=40e
    9a=45f 9b=40f 9c=44e 9d=42e 9e=44a 9f=42a a0=430 a1=410 a2=431 a3=411 a4=446 a5=426 a6=434
    a7=414 a8=435 a9=415 aa=444 ab=424 ac=433 ad=413 ae=ab af=bb b0-b2=2591 b3=2502 b4=2524
    b5=445 b6=425 b7=438 b8=418 b9=2563 ba=2551 bb=2557 bc=255d bd=439 be=419 bf=2510 c0=2514
    c1=2534 c2=252c c3=251c c4=2500 c5=253c c6=43a c7=41a c8=255a c9=2554 ca=2569 cb=2566
    cc=2560 cd=2550 ce=256c cf=a4 d0=43b d1=41b d2=43c d3=41c d4=43d d5=41d d6=43e d7=41e
    d8=43f d9=2518 da=250c db=2588 dc=2584 dd=41f de=44f df=2580 e0=42f e1=440 e2=420 e3=441
    e4=421 e5=442 e6=422 e7=443 e8=423 e9=436 ea=416 eb=432 ec=412 ed=44c ee=42c ef=2116 f0=ad
    f1=44b f2=42b f3=437 f4=417 f5=448 f6=428 f7=44d f8=42d f9=449 fa=429 fb=447 fc=427 fd=a7
    fe=25a0 ff=a0"⟩,
  ⟨"cp857* csibm857 ibm857",
    "80=c7 81=fc 82=e9 83=e2 84=e4 85=e0 86=e5 87=e7 88-89=ea 8a=e8 8b=ef 8c=ee 8d=131 8e-8f=c4
    90=c9 91=e6 92=c6 93=f4 94=f6 95=f2 96=fb 97=f9 98=130 99=d6 9a=dc 9b=f8 9c=a3 9d=d8
    9e-9f=15e a0=e1 a1=ed a2=f3 a3=fa a4=f1 a5=d1 a6-a7=11e a8=bf a9=ae aa=ac ab=bd ac=bc
    ad=a1 ae=ab af=bb b0-b2=2591 b3=2502 b4=2524 b5-b6=c1 b7=c0 b8=a9 b9=2563 ba=2551 bb=2557
    bc=255d bd=a2 be=a5 bf=2510 c0=2514 c1=2534 c2=252c c3=251c c4=2500 c5=253c c6=e3 c7=c3
    c8=255a c9=2554 ca=2569 cb=2566 cc=2560 cd=2550 ce=256c cf=a4 d0=ba d1=aa d2-d3=ca d4=c8
    d6-d8=cd d9=2518 da=250c db=2588 dc=2584 dd=a6 de=cc df=2580 e0=d3 e1=df e2=d4 e3=d2 e4=f5
    e5=d5 e6=b5 e8=d7 e9-ea=da eb=d9 ec=ec ed=ff ee=af ef=b4 f0=ad f1=b1 f3=be f4=b6 f5=a7
    f6=f7 f7=b8 f8=b0 f9=a8 fa=b7 fb=b9 fc=b3 fd=b2 fe=25a0 ff=a0"⟩,
  ⟨"cp858* csibm858 ibm858",
    "80=c7 81=fc 82=e9 83=e2 84=e4 85=e0 86=e5 87=e7 88-89=ea 8a=e8 8b=ef 8c=ee 8d=ec 8e-8f=c4
    90=c9 91=e6 92=c6 93=f4 94=f6 95=f2 96=fb 97=f9 98=ff 99=d6 9a=dc 9b=f8 9c=a3 9d=d8 9e=d7
    9f=192 a0=e1 a1=ed a2=f3 a3=fa a4=f1 a5=d1 a6=aa a7=ba a8=bf a9=ae aa=ac ab=bd ac=bc ad=a1
    ae=ab af=bb b0-b2=2591 b3=2502 b4=2524 b5-b6=c1 b7=c0 b8=a9 b9=2563 ba=2551 bb=2557
    bc=255d bd=a2 be=a5 bf=2510 c0=2514 c1=2534 c2=252c c3=251c c4=2500 c5=253c c6=e3 c7=c3
    c8=255a c9=2554 ca=2569 cb=2566 cc=2560 cd=2550 ce=256c cf=a4 d0=f0 d1=d0 d2-d3=ca d4=c8
    d5=20ac d6-d8=cd d9=2518 da=250c db=2588 dc=2584 dd=a6 de=cc df=2580 e0=d3 e1=df e2=d4
    e3=d2 e4=f5 e5=d5 e6=b5 e7=fe e8=de e9-ea=da eb=d9 ec=fd ed=dd ee=af ef=b4 f0=ad f1=b1
    f2=2017 f3=be f4=b6 f5=a7 f6=f7 f7=b8 f8=b0 f9=a8 fa=b7 fb=b9 fc=b3 fd=b2 fe=25a0 ff=a0"⟩,
  ⟨"cp860* csibm860 ibm860",
    "80=c7 81=fc 82=e9 83-84=e2 85=e0 86=c1 87=e7 88=ea 89=ca 8a=e8 8b=cd 8c=d4 8d=ec 8e=c3
    8f=c2 90=c9 91=c0 92=c8 93-94=f4 95=f2 96=da 97=f9 98=cc 99=d5 9a=dc 9b-9c=a2 9d=d9
    9e=20a7 9f=d3 a0=e1 a1=ed a2=f3 a3=fa a4=f1 a5=d1 a6=aa a7=ba a8=bf a9=d2 aa=ac ab=bd
    ac=bc ad=a1 ae=ab af=bb b0-b2=2591 b3=2502 b4=2524 b5-b6=2561 b7=2556 b8=2555 b9=2563
    ba=2551 bb=2557 bc=255d bd=255c be=255b bf=2510 c0=2514 c1=2534 c2=252c c3=251c c4=2500
    c5=253c c6-c7=255e c8=255a c9=2554 ca=2569 cb=2566 cc=2560 cd=2550 ce=256c cf-d0=2567
    d1-d2=2564 d3=2559 d4=2558 d5-d6=2552 d7=256b d8=256a d9=2518 da=250c db=2588 dc=2584
    dd=258c de=2590 df=2580 e0=3b1 e1=df e2=393 e3=3c0 e4=3a3 e5=3c3 e6=b5 e7=3c4 e8=3a6
    e9=398 ea=3a9 eb=3b4 ec=221e ed=3c6 ee=3b5 ef=2229 f0=2261 f1=b1 f2=2265 f3=2264
    f4-f5=2320 f6=f7 f7=2248 f8=b0 f9=2219 fa=b7 fb=221a fc=207f fd=b2 fe=25a0 ff=a0"⟩,
  ⟨"cp861* cp_is csibm861 ibm861",
    "80=c7 81=fc 82=e9 83=e2 84=e4 85=e0 86=e5 87=e7 88-89=ea 8a=e8 8b=d0 8c=f0 8d=de 8e-8f=c4
    90=c9 91=e6 92=c6 93=f4 94=f6 95=fe 96=fb 97=dd 98=fd 99=d6 9a=dc 9b=f8 9c=a3 9d=d8
    9e=20a7 9f=192 a0=e1 a1=ed a2=f3 a3=fa a4=c1 a5=cd a6=d3 a7=da a8=bf a9=2310 aa=ac ab=bd
    ac=bc ad=a1 ae=ab af=bb b0-b2=2591 b3=2502 b4=2524 b5-b6=2561 b7=2556 b8=2555 b9=2563
    ba=2551 bb=2557 bc=255d bd=255c be=255b bf=2510 c0=2514 c1=2534 c2=252c c3=251c c4=2500
    c5=253c c6-c7=255e c8=255a c9=2554 ca=2569 cb=2566 cc=2560 cd=2550 ce=256c cf-d0=2567
    d1-d2=2564 d3=2559 d4=2558 d5-d6=2552 d7=256b d8=256a d9=2518 da=250c db=2588 dc=2584
    dd=258c de=2590 df=2580 e0=3b1 e1=df e2=393 e3=3c0 e4=3a3 e5=3c3 e6=b5 e7=3c4 e8=3a6
    e9=398 ea=3a9 eb=3b4 ec=221e ed=3c6 ee=3b5 ef=2229 f0=2261 f1=b1 f2=2265 f3=2264
    f4-f5=2320 f6=f7 f7=2248 f8=b0 f9=2219 fa=b7 fb=221a fc=207f fd=b2 fe=25a0 ff=a0"⟩,
  ⟨"cp862* cspc862latinhebrew ibm862",
    "80-9a=5d0 9b-9c=a2 9d=a5 9e=20a7 9f=192 a0=e1 a1=ed a2=f3 a3=fa a4=f1 a5=d1 a6=aa a7=ba
    a8=bf a9=2310 aa=ac ab=bd ac=bc ad=a1 ae=ab af=bb b0-b2=2591 b3=2502 b4=2524 b5-b6=2561
    b7=2556 b8=2555 b9=2563 ba=2551 bb=2557 bc=255d bd=255c be=255b bf=2510 c0=2514 c1=2534
    c2=252c c3=251c c4=2500 c5=253c c6-c7=255e c8=255a c9=2554 ca=2569 cb=2566 cc=2560 cd=2550
    ce=256c cf-d0=2567 d1-d2=2564 d3=2559 d4=2558 d5-d6=2552 d7=256b d8=256a d9=2518 da=250c
    db=2588 dc=2584 dd=258c de=2590 df=2580 e0=3b1 e1=df e2=393 e3=3c0 e4=3a3 e5=3c3 e6=b5
    e7=3c4 e8=3a6 e9=398 ea=3a9 eb=3b4 ec=221e ed=3c6 ee=3b5 ef=2229 f0=2261 f1=b1 f2=2265
    f3=2264 f4-f5=2320 f6=f7 f7=2248 f8=b0 f9=2219 fa=b7 fb=221a fc=207f fd=b2 fe=25a0 ff=a0"⟩,
  ⟨"cp863* csibm863 ibm863",
    "80=c7 81=fc 82=e9 83=e2 84=c2 85=e0 86=b6 87=e7 88-89=ea 8a=e8 8b=ef 8c=ee 8d=2017 8e=c0
    8f=a7 90=c9 91=c8 92=ca 93=f4 94=cb 95=cf 96=fb 97=f9 98=a4 99=d4 9a=dc 9b-9c=a2 9d=d9
    9e=db 9f=192 a0=a6 a1=b4 a2=f3 a3=fa a4=a8 a5=b8 a6=b3 a7=af a8=ce a9=2310 aa=ac ab=bd
    ac=bc ad=be ae=ab af=bb b0-b2=2591 b3=2502 b4=2524 b5-b6=2561 b7=2556 b8=2555 b9=2563
    ba=2551 bb=2557 bc=255d bd=255c be=255b bf=2510 c0=2514 c1=2534 c2=252c c3=251c c4=2500
    c5=253c c6-c7=255e c8=255a c9=2554 ca=2569 cb=2566 cc=2560 cd=2550 ce=256c cf-d0=2567
    d1-d2=2564 d3=2559 d4=2558 d5-d6=2552 d7=256b d8=256a d9=2518 da=250c db=2588 dc=2584
    dd=258c de=2590 df=2580 e0=3b1 e1=df e2=393 e3=3c0 e4=3a3 e5=3c3 e6=b5 e7=3c4 e8=3a6
    e9=398 ea=3a9 eb=3b4 ec=221e ed=3c6 ee=3b5 ef=2229 f0=2261 f1=b1 f2=2265 f3=2264
    f4-f5=2320 f6=f7 f7=2248 f8=b0 f9=2219 fa=b7 fb=221a fc=207f fd=b2 fe=25a0 ff=a0"⟩,
  ⟨"cp865* csibm865 ibm865",
    "80=c7 81=fc 82=e9 83=e2 84=e4 85=e0 86=e5 87=e7 88-89=ea 8a=e8 8b=ef 8c=ee 8d=ec 8e-8f=c4
    90=c9 91=e6 92=c6 93=f4 94=f6 95=f2 96=fb 97=f9 98=ff 99=d6 9a=dc 9b=f8 9c=a3 9d=d8
    9e=20a7 9f=192 a0=e1 a1=ed a2=f3 a3=fa a4=f1 a5=d1 a6=aa a7=ba a8=bf a9=2310 aa=ac ab=bd
    ac=bc ad=a1 ae=ab af=a4 b0-b2=2591 b3=2502 b4=2524 b5-b6=2561 b7=2556 b8=2555 b9=2563
    ba=2551 bb=2557 bc=255d bd=255c be=255b bf=2510 c0=2514 c1=2534 c2=252c c3=251c c4=2500
    c5=253c c6-c7=255e c8=255a c9=2554 ca=2569 cb=2566 cc=2560 cd=2550 ce=256c cf-d0=2567
    d1-d2=2564 d3=2559 d4=2558 d5-d6=2552 d7=256b d8=256a d9=2518 da=250c db=2588 dc=2584
    dd=258c de=2590 df=2580 e0=3b1 e1=df e2=393 e3=3c0 e4=3a3 e5=3c3 e6=b5 e7=3c4 e8=3a6
    e9=398 ea=3a9 eb=3b4 ec=221e ed=3c6 ee=3b5 ef=2229 f0=2261 f1=b1 f2=2265 f3=2264
    f4-f5=2320 f6=f7 f7=2248 f8=b0 f9=2219 fa=b7 fb=221a fc=207f fd=b2 fe=25a0 ff=a0"⟩,
  ⟨"cp866* csibm866 ibm866",
    "80-af=410 b0-b2=2591 b3=2502 b4=2524 b5-b6=2561 b7=2556 b8=2555 b9=2563 ba=2551 bb=2557
    bc=255d bd=255c be=255b bf=2510 c0=2514 c1=2534 c2=252c c3=251c c4=2500 c5=253c c6-c7=255e
    c8=255a c9=2554 ca=2569 cb=2566 cc=2560 cd=2550 ce=256c cf-d0=2567 d1-d2=2564 d3=2559
    d4=2558 d5-d6=2552 d7=256b d8=256a d9=2518 da=250c db=2588 dc=2584 dd=258c de=2590 df=2580
    e0-ef=440 f0=401 f1=451 f2=404 f3=454 f4=407 f5=457 f6=40e f7=45e f8=b0 f9=2219 fa=b7
    fb=221a fc=2116 fd=a4 fe=25a0 ff=a0"⟩,
  ⟨"cp869* cp_gr csibm869 ibm869",
    "86=386 88=b7 89=ac 8a=a6 8b-8c=2018 8d=388 8e=2015 8f-90=389 91=3aa 92=38c 95=38e 96=3ab
    97=a9 98=38f 99-9a=b2 9b=3ac 9c=a3 9d-9f=3ad a0=3ca a1=390 a2-a3=3cc a4-aa=391 ab=bd
    ac-ad=398 ae=ab af=bb b0-b2=2591 b3=2502 b4=2524 b5-b8=39a b9=2563 ba=2551 bb=2557 bc=255d
    bd-be=39e bf=2510 c0=2514 c1=2534 c2=252c c3=251c c4=2500 c5=253c c6-c7=3a0 c8=255a
    c9=2554 ca=2569 cb=2566 cc=2560 cd=2550 ce=256c cf-d5=3a3 d6-d8=3b1 d9=2518 da=250c
    db=2588 dc=2584 dd-de=3b4 df=2580 e0-eb=3b6 ec=3c3 ed=3c2 ee=3c4 ef=384 f0=ad f1=b1
    f2-f4=3c5 f5=a7 f6=3c8 f7=385 f8=b0 f9=a8 fa=3c9 fb=3cb fc=3b0 fd=3ce fe=25a0 ff=a0"⟩,
  ⟨"charmap* cp819 csisolatin1 ibm819 iso8859 iso8859_1 iso_8859_1 iso_8859_1_1987
      iso_ir_100 l1 latin latin1 latin_1* raw_unicode_escape* unicode_escape*",
    "80-ff=80"⟩,
  ⟨"arabic asmo_708 csisolatinarabic ecma_114 iso8859_6* iso_8859_6 iso_8859_6_1987
      iso_ir_127",
    "80-a0=80 a4=a4 ac=60c ad=ad bb=61b bf=61f c1-da=621 e0-f2=640"⟩,
  ⟨"cp1006*",
    "80-a0=80 a1-aa=6f0 ab=60c ac=61b ad=ad ae=61f af=fe81 b0-b1=fe8d b2-b3=fe8e b4=fe91
    b5=fb56 b6=fb58 b7=fe93 b8=fe95 b9=fe97 ba=fb66 bb=fb68 bc=fe99 bd=fe9b be=fe9d bf=fe9f
    c0=fb7a c1=fb7c c2=fea1 c3=fea3 c4=fea5 c5=fea7 c6=fea9 c7=fb84 c8=feab c9=fead ca=fb8c
    cb=feaf cc=fb8a cd=feb1 ce=feb3 cf=feb5 d0=feb7 d1=feb9 d2=febb d3=febd d4=febf d5=fec1
    d6=fec5 d7-df=fec9 e0=fed3 e1=fed5 e2=fed7 e3=fed9 e4=fedb e5=fb92 e6=fb94 e7=fedd
    e8-ea=fedf eb=fee3 ec=fb9e ed=fee5 ee=fee7 ef=fe85 f0=feed f1=fba6 f2-f4=fba8 f5=fe80
    f6-f8=fe89 f9-fb=fef1 fc=fbb0 fd=fbae fe-ff=fe7c"⟩,
  ⟨"cp1051 hp_roman8* ibm1051 r8 roman8",
    "80-a0=80 a1=c0 a2=c2 a3=c8 a4-a5=ca a6-a7=ce a8=b4 a9=2cb aa=2c6 ab=a8 ac=2dc ad=d9 ae=db
    af=20a4 b0=af b1=dd b2=fd b3=b0 b4=c7 b5=e7 b6=d1 b7=f1 b8=a1 b9=bf ba=a4 bb=a3 bc=a5
    bd=a7 be=192 bf=a2 c0=e2 c1=ea c2=f4 c3=fb c4=e1 c5=e9 c6=f3 c7=fa c8=e0 c9=e8 ca=f2 cb=f9
    cc=e4 cd=eb ce=f6 cf=fc d0=c5 d1=ee d2=d8 d3=c6 d4=e5 d5=ed d6=f8 d7=e6 d8=c4 d9=ec da=d6
    db=dc dc=c9 dd=ef de=df df=d4 e0=c1 e1=c3 e2=e3 e3=d0 e4=f0 e5=cd e6=cc e7=d3 e8=d2 e9=d5
    ea=f5 eb-ec=160 ed=da ee=178 ef=ff f0=de f1=fe f2=b7 f3-f4=b5 f5=be f6=2014 f7-f8=bc f9=aa
    fa=ba fb=ab fc=25a0 fd=bb fe=b1"⟩,
  ⟨"cp154 csptcp154 cyrillic_asian pt154 ptcp154*",
    "80=496 81=492 82=4ee 83=493 84=201e 85=2026 86=4b6 87=4ae 88=4b2 89=4af 8a=4a0 8b=4e2
    8c=4a2 8d=49a 8e=4ba 8f=4b8 90=497 91-92=2018 93-94=201c 95=2022 96-97=2013 98=4b3 99=4b7
    9a=4a1 9b=4e3 9c=4a3 9d=49b 9e=4bb 9f=4b9 a0=a0 a1=40e a2=45e a3=408 a4=4e8 a5=498 a6=4b0
    a7=a7 a8=401 a9=a9 aa=4d8 ab-ac=ab ad=4ef ae=ae af=49c b0=b0 b1=4b1 b2=406 b3=456 b4=499
    b5=4e9 b6-b7=b6 b8=451 b9=2116 ba=4d9 bb=bb bc=458 bd-be=4aa bf=49d c0-ff=410"⟩,
  ⟨"cp720*",
    "80-81=80 82=e9 83=e2 84=84 85=e0 86=86 87=e7 88-89=ea 8a=e8 8b=ef 8c=ee 8d-90=8d 91-92=651
    93=f4 94=a4 95=640 96=fb 97=f9 98-9b=621 9c=a3 9d-ad=625 ae=ab af=bb b0-b2=2591 b3=2502
    b4=2524 b5-b6=2561 b7=2556 b8=2555 b9=2563 ba=2551 bb=2557 bc=255d bd=255c be=255b bf=2510
    c0=2514 c1=2534 c2=252c c3=251c c4=2500 c5=253c c6-c7=255e c8=255a c9=2554 ca=2569 cb=2566
    cc=2560 cd=2550 ce=256c cf-d0=2567 d1-d2=2564 d3=2559 d4=2558 d5-d6=2552 d7=256b d8=256a
    d9=2518 da=250c db=2588 dc=2584 dd=258c de=2590 df=2580 e0-e4=636 e5=641 e6=b5 e7-ef=642
    f0=2261 f1-f6=64b f7=2248 f8=b0 f9=2219 fa=b7 fb=221a fc=207f fd=b2 fe=25a0 ff=a0"⟩,
  ⟨"cp737*",
    "80-90=391 91-97=3a3 98-a8=3b1 a9=3c3 aa=3c2 ab-af=3c4 b0-b2=2591 b3=2502 b4=2524
    b5-b6=2561 b7=2556 b8=2555 b9=2563 ba=2551 bb=2557 bc=255d bd=255c be=255b bf=2510 c0=2514
    c1=2534 c2=252c c3=251c c4=2500 c5=253c c6-c7=255e c8=255a c9=2554 ca=2569 cb=2566 cc=2560
    cd=2550 ce=256c cf-d0=2567 d1-d2=2564 d3=2559 d4=2558 d5-d6=2552 d7=256b d8=256a d9=2518
    da=250c db=2588 dc=2584 dd=258c de=2590 df=2580 e0=3c9 e1-e3=3ac e4=3ca e5=3af e6-e7=3cc
    e8=3cb e9=3ce ea=386 eb-ed=388 ee=38c ef-f0=38e f1=b1 f2=2265 f3=2264 f4-f5=3aa f6=f7
    f7=2248 f8=b0 f9=2219 fa=b7 fb=221a fc=207f fd=b2 fe=25a0 ff=a0"⟩,
  ⟨"cp856*",
    "80-9a=5d0 9c=a3 9e=d7 a9=ae aa=ac ab=bd ac=bc ae=ab af=bb b0-b2=2591 b3=2502 b4=2524 b8=a9
    b9=2563 ba=2551 bb=2557 bc=255d bd=a2 be=a5 bf=2510 c0=2514 c1=2534 c2=252c c3=251c
    c4=2500 c5=253c c8=255a c9=2554 ca=2569 cb=2566 cc=2560 cd=2550 ce=256c cf=a4 d9=2518
    da=250c db=2588 dc=2584 dd=a6 df=2580 e6=b5 ee=af ef=b4 f0=ad f1=b1 f2=2017 f3=be f4=b6
    f5=a7 f6=f7 f7=b8 f8=b0 f9=a8 fa=b7 fb=b9 fc=b3 fd=b2 fe=25a0 ff=a0"⟩,
  ⟨"cp874*",
    "80=20ac 85=2026 91-92=2018 93-94=201c 95=2022 96-97=2013 a0=a0 a1-da=e01 df-fb=e3f"⟩,
  ⟨"csisolatin2 iso8859_2* iso_8859_2 iso_8859_2_1987 iso_ir_101 l2 latin2",
    "80-a0=80 a1=104 a2=2d8 a3=141 a4=a4 a5=13d a6=15a a7-a8=a7 a9=160 aa=15e ab=164 ac=179
    ad=ad ae=17d af=17b b0=b0 b1=105 b2=2db b3=142 b4=b4 b5=13e b6=15b b7=2c7 b8=b8 b9=161
    ba=15f bb=165 bc=17a bd=2dd be=17e bf=17c c0=154 c1-c2=c1 c3=102 c4=c4 c5=139 c6=106 c7=c7
    c8=10c c9=c9 ca=118 cb=cb cc=11a cd-ce=cd cf=10e d0=110 d1=143 d2=147 d3-d4=d3 d5=150
    d6-d7=d6 d8=158 d9=16e da=da db=170 dc-dd=dc de=162 df=df e0=155 e1-e2=e1 e3=103 e4=e4
    e5=13a e6=107 e7=e7 e8=10d e9=e9 ea=119 eb=eb ec=11b ed-ee=ed ef=10f f0=111 f1=144 f2=148
    f3-f4=f3 f5=151 f6-f7=f6 f8=159 f9=16f fa=fa fb=171 fc-fd=fc fe=163 ff=2d9"⟩,
  ⟨"csisolatin3 iso8859_3* iso_8859_3 iso_8859_3_1988 iso_ir_109 l3 latin3",
    "80-a0=80 a1=126 a2=2d8 a3-a4=a3 a6=124 a7-a8=a7 a9=130 aa=15e ab=11e ac=134 ad=ad af=17b
    b0=b0 b1=127 b2-b5=b2 b6=125 b7-b8=b7 b9=131 ba=15f bb=11f bc=135 bd=bd bf=17c c0-c2=c0
    c4=c4 c5=10a c6=108 c7-cf=c7 d1-d4=d1 d5=120 d6-d7=d6 d8=11c d9-dc=d9 dd=16c de=15c
    df-e2=df e4=e4 e5=10b e6=109 e7-ef=e7 f1-f4=f1 f5=121 f6-f7=f6 f8=11d f9-fc=f9 fd=16d
    fe=15d ff=2d9"⟩,
  ⟨"csisolatin4 iso8859_4* iso_8859_4 iso_8859_4_1988 iso_ir_110 l4 latin4",
    "80-a0=80 a1=104 a2=138 a3=156 a4=a4 a5=128 a6=13b a7-a8=a7 a9=160 aa=112 ab=122 ac=166
    ad=ad ae=17d af-b0=af b1=105 b2=2db b3=157 b4=b4 b5=129 b6=13c b7=2c7 b8=b8 b9=161 ba=113
    bb=123 bc=167 bd=14a be=17e bf=14b c0=100 c1-c6=c1 c7=12e c8=10c c9=c9 ca=118 cb=cb cc=116
    cd-ce=cd cf=12a d0=110 d1=145 d2=14c d3=136 d4-d8=d4 d9=172 da-dc=da dd=168 de=16a df=df
    e0=101 e1-e6=e1 e7=12f e8=10d e9=e9 ea=119 eb=eb ec=117 ed-ee=ed ef=12b f0=111 f1=146
    f2=14d f3=137 f4-f8=f4 f9=173 fa-fc=fa fd=169 fe=16b ff=2d9"⟩,
  ⟨"csisolatin5 iso8859_9* iso_8859_9 iso_8859_9_1989 iso_ir_148 l5 latin5",
    "80-cf=80 d0=11e d1-dc=d1 dd=130 de=15e df-ef=df f0=11f f1-fc=f1 fd=131 fe=15f ff=ff"⟩,
  ⟨"csisolatin6 iso8859_10* iso_8859_10 iso_8859_10_1992 iso_ir_157 l6 latin6",
    "80-a0=80 a1=104 a2=112 a3=122 a4=12a a5=128 a6=136 a7=a7 a8=13b a9=110 aa=160 ab=166
    ac=17d ad=ad ae=16a af=14a b0=b0 b1=105 b2=113 b3=123 b4=12b b5=129 b6=137 b7=b7 b8=13c
    b9=111 ba=161 bb=167 bc=17e bd=2015 be=16b bf=14b c0=100 c1-c6=c1 c7=12e c8=10c c9=c9
    ca=118 cb=cb cc=116 cd-d0=cd d1=145 d2=14c d3-d6=d3 d7=168 d8=d8 d9=172 da-df=da e0=101
    e1-e6=e1 e7=12f e8=10d e9=e9 ea=119 eb=eb ec=117 ed-f0=ed f1=146 f2=14d f3-f6=f3 f7=169
    f8=f8 f9=173 fa-fe=fa ff=138"⟩,
  ⟨"csisolatincyrillic cyrillic iso8859_5* iso_8859_5 iso_8859_5_1988 iso_ir_144",
    "80-a0=80 a1-ac=401 ad=ad ae-ef=40e f0=2116 f1-fc=451 fd=a7 fe-ff=45e"⟩,
  ⟨"csisolatingreek ecma_118 elot_928 greek greek8 iso8859_7* iso_8859_7 iso_8859_7_1987
      iso_ir_126",
    "80-a0=80 a1-a2=2018 a3=a3 a4=20ac a5=20af a6-a9=a6 aa=37a ab-ad=ab af=2015 b0-b3=b0
    b4-b6=384 b7=b7 b8-ba=388 bb=bb bc=38c bd=bd be-d1=38e d3-fe=3a3"⟩,
  ⟨"csisolatinhebrew hebrew iso8859_8* iso_8859_8 iso_8859_8_1988 iso_ir_138",
    "80-a0=80 a2-a9=a2 aa=d7 ab-b9=ab ba=f7 bb-be=bb df=2017 e0-fa=5d0 fd-fe=200e"⟩,
  ⟨"cskoi8r koi8_r*",
    "80=2500 81=2502 82=250c 83=2510 84=2514 85=2518 86=251c 87=2524 88=252c 89=2534 8a=253c
    8b=2580 8c=2584 8d=2588 8e=258c 8f-92=2590 93=2320 94=25a0 95-96=2219 97=2248 98-99=2264
    9a=a0 9b=2321 9c=b0 9d=b2 9e=b7 9f=f7 a0-a2=2550 a3=451 a4-b2=2553 b3=401 b4-be=2562 bf=a9
    c0=44e c1-c2=430 c3=446 c4-c5=434 c6=444 c7=433 c8=445 c9-d0=438 d1=44f d2-d5=440 d6=436
    d7=432 d8=44c d9=44b da=437 db=448 dc=44d dd=449 de=447 df=44a e0=42e e1-e2=410 e3=426
    e4-e5=414 e6=424 e7=413 e8=425 e9-f0=418 f1=42f f2-f5=420 f6=416 f7=412 f8=42c f9=42b
    fa=417 fb=428 fc=42d fd=429 fe=427 ff=42a"⟩,
  ⟨"hz* hz_gb hz_gb_2312 hzgb",
    "7e="⟩,
  ⟨"iso8859_11* iso_8859_11 iso_8859_11_2001 thai",
    "80-a0=80 a1-da=e01 df-fb=e3f"⟩,
  ⟨"iso8859_13* iso_8859_13 l7 latin7",
    "80-a0=80 a1=201d a2-a4=a2 a5=201e a6-a7=a6 a8=d8 a9=a9 aa=156 ab-ae=ab af=c6 b0-b3=b0
    b4=201c b5-b7=b5 b8=f8 b9=b9 ba=157 bb-be=bb bf=e6 c0=104 c1=12e c2=100 c3=106 c4-c5=c4
    c6=118 c7=112 c8=10c c9=c9 ca=179 cb=116 cc=122 cd=136 ce=12a cf=13b d0=160 d1=143 d2=145
    d3=d3 d4=14c d5-d7=d5 d8=172 d9=141 da=15a db=16a dc=dc dd=17b de=17d df=df e0=105 e1=12f
    e2=101 e3=107 e4-e5=e4 e6=119 e7=113 e8=10d e9=e9 ea=17a eb=117 ec=123 ed=137 ee=12b
    ef=13c f0=161 f1=144 f2=146 f3=f3 f4=14d f5-f7=f5 f8=173 f9=142 fa=15b fb=16b fc=fc fd=17c
    fe=17e ff=2019"⟩,
  ⟨"iso8859_14* iso_8859_14 iso_8859_14_1998 iso_celtic iso_ir_199 l8 latin8",
    "80-a0=80 a1-a2=1e02 a3=a3 a4-a5=10a a6=1e0a a7=a7 a8=1e80 a9=a9 aa=1e82 ab=1e0b ac=1ef2
    ad-ae=ad af=178 b0-b1=1e1e b2-b3=120 b4-b5=1e40 b6=b6 b7=1e56 b8=1e81 b9=1e57 ba=1e83
    bb=1e60 bc=1ef3 bd-be=1e84 bf=1e61 c0-cf=c0 d0=174 d1-d6=d1 d7=1e6a d8-dd=d8 de=176
    df-ef=df f0=175 f1-f6=f1 f7=1e6b f8-fd=f8 fe=177 ff=ff"⟩,
  ⟨"iso8859_15* iso_8859_15 l9 latin9",
    "80-a3=80 a4=20ac a5=a5 a6=160 a7=a7 a8=161 a9-b3=a9 b4=17d b5-b7=b5 b8=17e b9-bb=b9
    bc-bd=152 be=178 bf-ff=bf"⟩,
  ⟨"iso8859_16* iso_8859_16 iso_8859_16_2001 iso_ir_226 l10 latin10",
    "80-a0=80 a1-a2=104 a3=141 a4=20ac a5=201e a6=160 a7=a7 a8=161 a9=a9 aa=218 ab=ab ac=179
    ad=ad ae-af=17a b0-b1=b0 b2=10c b3=142 b4=17d b5=201d b6-b7=b6 b8=17e b9=10d ba=219 bb=bb
    bc-bd=152 be=178 bf=17c c0-c2=c0 c3=102 c4=c4 c5=106 c6-cf=c6 d0=110 d1=143 d2-d4=d2
    d5=150 d6=d6 d7=15a d8=170 d9-dc=d9 dd=118 de=21a df-e2=df e3=103 e4=e4 e5=107 e6-ef=e6
    f0=111 f1=144 f2-f4=f2 f5=151 f6=f6 f7=15b f8=171 f9-fc=f9 fd=119 fe=21b ff=ff"⟩,
  ⟨"iso_ir_166 tis620 tis_620* tis_620_0 tis_620_2529_0 tis_620_2529_1",
    "80-9f=80 a1-da=e01 df-fb=e3f"⟩,
  ⟨"koi8_t*",
    "80=49b 81=493 82=201a 83=492 84=201e 85=2026 86-87=2020 89=2030 8a=4b3 8b=2039 8c=4b2
    8d=4b7 8e=4b6 90=49a 91-92=2018 93-94=201c 95=2022 96-97=2013 99=2122 9b=203a a1=4ef
    a2=4ee a3=451 a4=a4 a5=4e3 a6-a7=a6 ab-ae=ab b0-b2=b0 b3=401 b5=4e2 b6-b7=b6 b9=2116 bb=bb
    bf=a9 c0=44e c1-c2=430 c3=446 c4-c5=434 c6=444 c7=433 c8=445 c9-d0=438 d1=44f d2-d5=440
    d6=436 d7=432 d8=44c d9=44b da=437 db=448 dc=44d dd=449 de=447 df=44a e0=42e e1-e2=410
    e3=426 e4-e5=414 e6=424 e7=413 e8=425 e9-f0=418 f1=42f f2-f5=420 f6=416 f7=412 f8=42c
    f9=42b fa=417 fb=428 fc=42d fd=429 fe=427 ff=42a"⟩,
  ⟨"koi8_u*",
    "80=2500 81=2502 82=250c 83=2510 84=2514 85=2518 86=251c 87=2524 88=252c 89=2534 8a=253c
    8b=2580 8c=2584 8d=2588 8e=258c 8f-92=2590 93=2320 94=25a0 95-96=2219 97=2248 98-99=2264
    9a=a0 9b=2321 9c=b0 9d=b2 9e=b7 9f=f7 a0-a2=2550 a3=451 a4=454 a5=2554 a6-a7=456
    a8-ac=2557 ad=491 ae-b2=255d b3=401 b4=404 b5=2563 b6-b7=406 b8-bc=2566 bd=490 be=256c
    bf=a9 c0=44e c1-c2=430 c3=446 c4-c5=434 c6=444 c7=433 c8=445 c9-d0=438 d1=44f d2-d5=440
    d6=436 d7=432 d8=44c d9=44b da=437 db=448 dc=44d dd=449 de=447 df=44a e0=42e e1-e2=410
    e3=426 e4-e5=414 e6=424 e7=413 e8=425 e9-f0=418 f1=42f f2-f5=420 f6=416 f7=412 f8=42c
    f9=42b fa=417 fb=428 fc=42d fd=429 fe=427 ff=42a"⟩,
  ⟨"kz1048* kz_1048 rk1048 strk1048_2002",
    "80-81=402 82=201a 83=453 84=201e 85=2026 86-87=2020 88=20ac 89=2030 8a=409 8b=2039 8c=40a
    8d=49a 8e=4ba 8f=40f 90=452 91-92=2018 93-94=201c 95=2022 96-97=2013 99=2122 9a=459
    9b=203a 9c=45a 9d=49b 9e=4bb 9f=45f a0=a0 a1-a2=4b0 a3=4d8 a4=a4 a5=4e8 a6-a7=a6 a8=401
    a9=a9 aa=492 ab-ae=ab af=4ae b0-b1=b0 b2=406 b3=456 b4=4e9 b5-b7=b5 b8=451 b9=2116 ba=493
    bb=bb bc=4d9 bd-be=4a2 bf=4af c0-ff=410"⟩,
  ⟨"mac_centeuro mac_latin2* maccentraleurope maclatin2",
    "80=c4 81-82=100 83=c9 84=104 85=d6 86=dc 87=e1 88=105 89=10c 8a=e4 8b=10d 8c-8d=106 8e=e9
    8f-90=179 91=10e 92=ed 93=10f 94-95=112 96=116 97=f3 98=117 99=f4 9a=f6 9b=f5 9c=fa
    9d-9e=11a 9f=fc a0=2020 a1=b0 a2=118 a3=a3 a4=a7 a5=2022 a6=b6 a7=df a8=ae a9=a9 aa=2122
    ab=119 ac=a8 ad=2260 ae=123 af-b0=12e b1=12a b2-b3=2264 b4=12b b5=136 b6=2202 b7=2211
    b8=142 b9-bc=13b bd-be=139 bf-c0=145 c1=143 c2=ac c3=221a c4=144 c5=147 c6=2206 c7=ab
    c8=bb c9=2026 ca=a0 cb=148 cc=150 cd=d5 ce=151 cf=14c d0-d1=2013 d2-d3=201c d4-d5=2018
    d6=f7 d7=25ca d8=14d d9-da=154 db=158 dc-dd=2039 de=159 df-e0=156 e1=160 e2=201a e3=201e
    e4=161 e5-e6=15a e7=c1 e8-e9=164 ea=cd eb-ec=17d ed=16a ee-ef=d3 f0=16b f1=16e f2=da
    f3-f7=16f f8=dd f9=fd fa=137 fb=17b fc=141 fd=17c fe=122 ff=2c7"⟩,
  ⟨"mac_croatian*",
    "80-81=c4 82=c7 83=c9 84=d1 85=d6 86=dc 87=e1 88=e0 89=e2 8a=e4 8b=e3 8c=e5 8d=e7 8e=e9
    8f=e8 90-91=ea 92=ed 93=ec 94-95=ee 96=f1 97=f3 98=f2 99=f4 9a=f6 9b=f5 9c=fa 9d=f9
    9e-9f=fb a0=2020 a1=b0 a2-a3=a2 a4=a7 a5=2022 a6=b6 a7=df a8=ae a9=160 aa=2122 ab=b4 ac=a8
    ad=2260 ae=17d af=d8 b0=221e b1=b1 b2-b3=2264 b4=2206 b5=b5 b6=2202 b7=2211 b8=220f b9=161
    ba=222b bb=aa bc=ba bd=3a9 be=17e bf=f8 c0=bf c1=a1 c2=ac c3=221a c4=192 c5=2248 c6=106
    c7=ab c8=10c c9=2026 ca=a0 cb=c0 cc=c3 cd=d5 ce-cf=152 d0=110 d1=2014 d2-d3=201c
    d4-d5=2018 d6=f7 d7=25ca d8=f8ff d9=a9 da=2044 db=20ac dc-dd=2039 de=c6 df=bb e0=2013
    e1=b7 e2=201a e3=201e e4=2030 e5=c2 e6=107 e7=c1 e8=10d e9=c8 ea-ec=cd ed=cc ee-ef=d3
    f0=111 f1=d2 f2-f3=da f4=d9 f5=131 f6=2c6 f7=2dc f8=af f9=3c0 fa=cb fb=2da fc=b8 fd=ca
    fe=e6 ff=2c7"⟩,
  ⟨"mac_cyrillic* maccyrillic",
    "80-9f=410 a0=2020 a1=b0 a2=490 a3=a3 a4=a7 a5=2022 a6=b6 a7=406 a8=ae a9=a9 aa=2122 ab=402
    ac=452 ad=2260 ae=403 af=453 b0=221e b1=b1 b2-b3=2264 b4=456 b5=b5 b6=491 b7=408 b8=404
    b9=454 ba=407 bb=457 bc=409 bd=459 be=40a bf=45a c0=458 c1=405 c2=ac c3=221a c4=192
    c5=2248 c6=2206 c7=ab c8=bb c9=2026 ca=a0 cb=40b cc=45b cd=40c ce=45c cf=455 d0-d1=2013
    d2-d3=201c d4-d5=2018 d6=f7 d7=201e d8=40e d9=45e da=40f db=45f dc=2116 dd=401 de=451
    df=44f e0-fe=430 ff=20ac"⟩,
  ⟨"mac_greek* macgreek",
    "80=c4 81=b9 82=b2 83=c9 84=b3 85=d6 86=dc 87=385 88=e0 89=e2 8a=e4 8b=384 8c=a8 8d=e7
    8e=e9 8f=e8 90-91=ea 92=a3 93=2122 94-95=ee 96=2022 97=bd 98=2030 99=f4 9a=f6 9b=a6
    9c=20ac 9d=f9 9e-9f=fb a0=2020 a1-a2=393 a3=398 a4=39b a5=39e a6=3a0 a7=df a8=ae a9=a9
    aa=3a3 ab=3aa ac=a7 ad=2260 ae=b0 af=b7 b0=391 b1=b1 b2-b3=2264 b4=a5 b5=392 b6-b8=395
    b9-ba=399 bb=39c bc=3a6 bd=3ab be-bf=3a8 c0=3ac c1=39d c2=ac c3=39f c4=3a1 c5=2248 c6=3a4
    c7=ab c8=bb c9=2026 ca=a0 cb=3a5 cc=3a7 cd=386 ce=388 cf=153 d0=2013 d1=2015 d2-d3=201c
    d4-d5=2018 d6=f7 d7-d8=389 d9=38c da=38e db-dd=3ad de=3cc df=38f e0=3cd e1-e2=3b1 e3=3c8
    e4-e5=3b4 e6=3c6 e7=3b3 e8=3b7 e9=3b9 ea=3be eb-ee=3ba ef-f0=3bf f1=3ce f2=3c1 f3-f4=3c3
    f5=3b8 f6=3c9 f7=3c2 f8=3c7 f9=3c5 fa=3b6 fb-fc=3ca fd=390 fe=3b0 ff=ad"⟩,
  ⟨"mac_iceland* maciceland",
    "80-81=c4 82=c7 83=c9 84=d1 85=d6 86=dc 87=e1 88=e0 89=e2 8a=e4 8b=e3 8c=e5 8d=e7 8e=e9
    8f=e8 90-91=ea 92=ed 93=ec 94-95=ee 96=f1 97=f3 98=f2 99=f4 9a=f6 9b=f5 9c=fa 9d=f9
    9e-9f=fb a0=dd a1=b0 a2-a3=a2 a4=a7 a5=2022 a6=b6 a7=df a8=ae a9=a9 aa=2122 ab=b4 ac=a8
    ad=2260 ae=c6 af=d8 b0=221e b1=b1 b2-b3=2264 b4=a5 b5=b5 b6=2202 b7=2211 b8=220f b9=3c0
    ba=222b bb=aa bc=ba bd=3a9 be=e6 bf=f8 c0=bf c1=a1 c2=ac c3=221a c4=192 c5=2248 c6=2206
    c7=ab c8=bb c9=2026 ca=a0 cb=c0 cc=c3 cd=d5 ce-cf=152 d0-d1=2013 d2-d3=201c d4-d5=2018
    d6=f7 d7=25ca d8=ff d9=178 da=2044 db=20ac dc=d0 dd=f0 de=de df=fe e0=fd e1=b7 e2=201a
    e3=201e e4=2030 e5=c2 e6=ca e7=c1 e8=cb e9=c8 ea-ec=cd ed=cc ee-ef=d3 f0=f8ff f1=d2
    f2-f3=da f4=d9 f5=131 f6=2c6 f7=2dc f8=af f9-fb=2d8 fc=b8 fd=2dd fe=2db ff=2c7"⟩,
  ⟨"mac_roman* macintosh macroman",
    "80-81=c4 82=c7 83=c9 84=d1 85=d6 86=dc 87=e1 88=e0 89=e2 8a=e4 8b=e3 8c=e5 8d=e7 8e=e9
    8f=e8 90-91=ea 92=ed 93=ec 94-95=ee 96=f1 97=f3 98=f2 99=f4 9a=f6 9b=f5 9c=fa 9d=f9
    9e-9f=fb a0=2020 a1=b0 a2-a3=a2 a4=a7 a5=2022 a6=b6 a7=df a8=ae a9=a9 aa=2122 ab=b4 ac=a8
    ad=2260 ae=c6 af=d8 b0=221e b1=b1 b2-b3=2264 b4=a5 b5=b5 b6=2202 b7=2211 b8=220f b9=3c0
    ba=222b bb=aa bc=ba bd=3a9 be=e6 bf=f8 c0=bf c1=a1 c2=ac c3=221a c4=192 c5=2248 c6=2206
    c7=ab c8=bb c9=2026 ca=a0 cb=c0 cc=c3 cd=d5 ce-cf=152 d0-d1=2013 d2-d3=201c d4-d5=2018
    d6=f7 d7=25ca d8=ff d9=178 da=2044 db=20ac dc-dd=2039 de-df=fb01 e0=2021 e1=b7 e2=201a
    e3=201e e4=2030 e5=c2 e6=ca e7=c1 e8=cb e9=c8 ea-ec=cd ed=cc ee-ef=d3 f0=f8ff f1=d2
    f2-f3=da f4=d9 f5=131 f6=2c6 f7=2dc f8=af f9-fb=2d8 fc=b8 fd=2dd fe=2db ff=2c7"⟩,
  ⟨"mac_romanian*",
    "80-81=c4 82=c7 83=c9 84=d1 85=d6 86=dc 87=e1 88=e0 89=e2 8a=e4 8b=e3 8c=e5 8d=e7 8e=e9
    8f=e8 90-91=ea 92=ed 93=ec 94-95=ee 96=f1 97=f3 98=f2 99=f4 9a=f6 9b=f5 9c=fa 9d=f9
    9e-9f=fb a0=2020 a1=b0 a2-a3=a2 a4=a7 a5=2022 a6=b6 a7=df a8=ae a9=a9 aa=2122 ab=b4 ac=a8
    ad=2260 ae=102 af=218 b0=221e b1=b1 b2-b3=2264 b4=a5 b5=b5 b6=2202 b7=2211 b8=220f b9=3c0
    ba=222b bb=aa bc=ba bd=3a9 be=103 bf=219 c0=bf c1=a1 c2=ac c3=221a c4=192 c5=2248 c6=2206
    c7=ab c8=bb c9=2026 ca=a0 cb=c0 cc=c3 cd=d5 ce-cf=152 d0-d1=2013 d2-d3=201c d4-d5=2018
    d6=f7 d7=25ca d8=ff d9=178 da=2044 db=20ac dc-dd=2039 de-df=21a e0=2021 e1=b7 e2=201a
    e3=201e e4=2030 e5=c2 e6=ca e7=c1 e8=cb e9=c8 ea-ec=cd ed=cc ee-ef=d3 f0=f8ff f1=d2
    f2-f3=da f4=d9 f5=131 f6=2c6 f7=2dc f8=af f9-fb=2d8 fc=b8 fd=2dd fe=2db ff=2c7"⟩,
  ⟨"mac_turkish* macturkish",
    "80-81=c4 82=c7 83=c9 84=d1 85=d6 86=dc 87=e1 88=e0 89=e2 8a=e4 8b=e3 8c=e5 8d=e7 8e=e9
    8f=e8 90-91=ea 92=ed 93=ec 94-95=ee 96=f1 97=f3 98=f2 99=f4 9a=f6 9b=f5 9c=fa 9d=f9
    9e-9f=fb a0=2020 a1=b0 a2-a3=a2 a4=a7 a5=2022 a6=b6 a7=df a8=ae a9=a9 aa=2122 ab=b4 ac=a8
    ad=2260 ae=c6 af=d8 b0=221e b1=b1 b2-b3=2264 b4=a5 b5=b5 b6=2202 b7=2211 b8=220f b9=3c0
    ba=222b bb=aa bc=ba bd=3a9 be=e6 bf=f8 c0=bf c1=a1 c2=ac c3=221a c4=192 c5=2248 c6=2206
    c7=ab c8=bb c9=2026 ca=a0 cb=c0 cc=c3 cd=d5 ce-cf=152 d0-d1=2013 d2-d3=201c d4-d5=2018
    d6=f7 d7=25ca d8=ff d9=178 da-db=11e dc-dd=130 de-df=15e e0=2021 e1=b7 e2=201a e3=201e
    e4=2030 e5=c2 e6=ca e7=c1 e8=cb e9=c8 ea-ec=cd ed=cc ee-ef=d3 f0=f8ff f1=d2 f2-f3=da f4=d9
    f5=f8a0 f6=2c6 f7=2dc f8=af f9-fb=2d8 fc=b8 fd=2dd fe=2db ff=2c7"⟩,
  ⟨"palmos*",
    "80=20ac 81=81 82=201a 83=192 84=201e 85=2026 86-87=2020 88=2c6 89=2030 8a=160 8b=2039
    8c=152 8d=2666 8e=2663 8f=2665 90=2660 91-92=2018 93-94=201c 95=2022 96-97=2013 98=2dc
    99=2122 9a=161 9b=9b 9c=153 9d-9e=9d 9f=178 a0-ff=a0"⟩]

/-- The name in small letters, with one low line for each run of other characters than letters,
digits and points; none at its start. -/
def normalName : List Char → List Char → List Char
  | found, [] => found.reverse
  | found, c :: rest =>
      if c.isAlphanum || c == '.' then normalName (c.toLower :: found) rest
      else if found.isEmpty || found.head? == some '_' then normalName found rest
      else normalName ('_' :: found) rest

/-- Looks a name up in all lists by `has`. -/
def find? (has : String → Bool) : Option NamedEncoding :=
  match entries.find? (has ·.names) with
  | some entry => some (.page entry.codes)
  | none =>
      if has multiByteNames then some .multiByte
      else if has foreignNames then some .foreign
      else if has binaryNames then some .binary
      else if has "idna*" then some .hostLabels
      else if has "punycode*" then some .asciiLabels
      else if has "undefined*" then some .empty
      else none

end CodePage

/-- What a declared name of an encoding stands for. -/
def NamedEncoding.ofName? (name : List Char) : Option NamedEncoding :=
  let normal := Text.dropEndWhile (· == '_') (CodePage.normalName [] name)
  match CodePage.find? (CodePage.isNamed · (String.ofList normal)) with
  | some found => some found
  | none =>
      if normal.contains '.' then
        let plain := normal.map fun c => if c == '.' then '_' else c
        CodePage.find? (CodePage.isDotted · (String.ofList plain))
      else none

end BucketRegion.Xml
