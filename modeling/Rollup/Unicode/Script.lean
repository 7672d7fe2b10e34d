import Rollup.Unicode.Partition

/-!
# Scripts

The script of every code point, from version 16 of the standard, and the names
under which a pattern may ask for a script.  A code point without a script is
listed as `Unknown`, which no pattern can ask for.
-/

namespace Rollup.Unicode.Script

/-- The script of every code point. -/
def partition : Partition where
  table :=
  "65Common 26Latin 6Common 26Latin 47Common Latin 15Common Latin 5Common 23Latin Common 31Latin
  Common 449Latin 39Common 5Latin 5Common 2Bopomofo 20Common 112Inherited 4Greek Common 3Greek
  2Unknown 4Greek Common Greek 4Unknown Greek Common Greek Common 3Greek Unknown Greek Unknown
  20Greek Unknown 63Greek 14Coptic 16Greek 133Cyrillic 2Inherited 169Cyrillic Unknown 38Armenian
  2Unknown 50Armenian 2Unknown 3Armenian Unknown 55Hebrew 8Unknown 27Hebrew 4Unknown 6Hebrew
  11Unknown 5Arabic Common 6Arabic Common 14Arabic Common 3Arabic Common 32Arabic Common 10Arabic
  11Inherited 26Arabic Inherited 108Arabic Common 34Arabic 14Syriac Unknown 60Syriac 2Unknown
  3Syriac 48Arabic 50Thaana 14Unknown 59Nko 2Unknown 3Nko 46Samaritan 2Unknown 15Samaritan
  Unknown 28Mandaic 2Unknown Mandaic Unknown 11Syriac 5Unknown 31Arabic Unknown 2Arabic 5Unknown
  75Arabic Common 29Arabic 81Devanagari 4Inherited 15Devanagari 2Common 26Devanagari 4Bengali
  Unknown 8Bengali 2Unknown 2Bengali 2Unknown 22Bengali Unknown 7Bengali Unknown Bengali 3Unknown
  4Bengali 2Unknown 9Bengali 2Unknown 2Bengali 2Unknown 4Bengali 8Unknown Bengali 4Unknown
  2Bengali Unknown 5Bengali 2Unknown 25Bengali 2Unknown 3Gurmukhi Unknown 6Gurmukhi 4Unknown
  2Gurmukhi 2Unknown 22Gurmukhi Unknown 7Gurmukhi Unknown 2Gurmukhi Unknown 2Gurmukhi Unknown
  2Gurmukhi 2Unknown Gurmukhi Unknown 5Gurmukhi 4Unknown 2Gurmukhi 2Unknown 3Gurmukhi 3Unknown
  Gurmukhi 7Unknown 4Gurmukhi Unknown Gurmukhi 7Unknown 17Gurmukhi 10Unknown 3Gujarati Unknown
  9Gujarati Unknown 3Gujarati Unknown 22Gujarati Unknown 7Gujarati Unknown 2Gujarati Unknown
  5Gujarati 2Unknown 10Gujarati Unknown 3Gujarati Unknown 3Gujarati 2Unknown Gujarati 15Unknown
  4Gujarati 2Unknown 12Gujarati 7Unknown 7Gujarati Unknown 3Oriya Unknown 8Oriya 2Unknown 2Oriya
  2Unknown 22Oriya Unknown 7Oriya Unknown 2Oriya Unknown 5Oriya 2Unknown 9Oriya 2Unknown 2Oriya
  2Unknown 3Oriya 7Unknown 3Oriya 4Unknown 2Oriya Unknown 5Oriya 2Unknown 18Oriya 10Unknown
  2Tamil Unknown 6Tamil 3Unknown 3Tamil Unknown 4Tamil 3Unknown 2Tamil Unknown Tamil Unknown
  2Tamil 3Unknown 2Tamil 3Unknown 3Tamil 3Unknown 12Tamil 4Unknown 5Tamil 3Unknown 3Tamil Unknown
  4Tamil 2Unknown Tamil 6Unknown Tamil 14Unknown 21Tamil 5Unknown 13Telugu Unknown 3Telugu
  Unknown 23Telugu Unknown 16Telugu 2Unknown 9Telugu Unknown 3Telugu Unknown 4Telugu 7Unknown
  2Telugu Unknown 3Telugu 2Unknown Telugu 2Unknown 4Telugu 2Unknown 10Telugu 7Unknown 9Telugu
  13Kannada Unknown 3Kannada Unknown 23Kannada Unknown 10Kannada Unknown 5Kannada 2Unknown
  9Kannada Unknown 3Kannada Unknown 4Kannada 7Unknown 2Kannada 6Unknown 2Kannada Unknown 4Kannada
  2Unknown 10Kannada Unknown 3Kannada 12Unknown 13Malayalam Unknown 3Malayalam Unknown
  51Malayalam Unknown 3Malayalam Unknown 6Malayalam 4Unknown 16Malayalam 2Unknown 26Malayalam
  Unknown 3Sinhala Unknown 18Sinhala 3Unknown 24Sinhala Unknown 9Sinhala Unknown Sinhala 2Unknown
  7Sinhala 3Unknown Sinhala 4Unknown 6Sinhala Unknown Sinhala Unknown 8Sinhala 6Unknown 10Sinhala
  2Unknown 3Sinhala 12Unknown 58Thai 4Unknown Common 28Thai 37Unknown 2Lao Unknown Lao Unknown
  5Lao Unknown 24Lao Unknown Lao Unknown 23Lao 2Unknown 5Lao Unknown Lao Unknown 7Lao Unknown
  10Lao 2Unknown 4Lao 32Unknown 72Tibetan Unknown 36Tibetan 4Unknown 39Tibetan Unknown 36Tibetan
  Unknown 15Tibetan Unknown 7Tibetan 4Common 2Tibetan 37Unknown 160Myanmar 38Georgian Unknown
  Georgian 5Unknown Georgian 2Unknown 43Georgian Common 4Georgian 256Hangul 73Ethiopic Unknown
  4Ethiopic 2Unknown 7Ethiopic Unknown Ethiopic Unknown 4Ethiopic 2Unknown 41Ethiopic Unknown
  4Ethiopic 2Unknown 33Ethiopic Unknown 4Ethiopic 2Unknown 7Ethiopic Unknown Ethiopic Unknown
  4Ethiopic 2Unknown 15Ethiopic Unknown 57Ethiopic Unknown 4Ethiopic 2Unknown 67Ethiopic 2Unknown
  32Ethiopic 3Unknown 26Ethiopic 6Unknown 86Cherokee 2Unknown 6Cherokee 2Unknown
  640Canadian_Aboriginal 29Ogham 3Unknown 75Runic 3Common 11Runic 7Unknown 22Tagalog 9Unknown
  Tagalog 21Hanunoo 2Common 9Unknown 20Buhid 12Unknown 13Tagbanwa Unknown 3Tagbanwa Unknown
  2Tagbanwa 12Unknown 94Khmer 2Unknown 10Khmer 6Unknown 10Khmer 6Unknown 2Mongolian 2Common
  Mongolian Common 20Mongolian 6Unknown 89Mongolian 7Unknown 43Mongolian 5Unknown
  70Canadian_Aboriginal 10Unknown 31Limbu Unknown 12Limbu 4Unknown 12Limbu 4Unknown Limbu
  3Unknown 12Limbu 30Tai_Le 2Unknown 5Tai_Le 11Unknown 44New_Tai_Lue 4Unknown 26New_Tai_Lue
  6Unknown 11New_Tai_Lue 3Unknown 2New_Tai_Lue 32Khmer 28Buginese 2Unknown 2Buginese 63Tai_Tham
  Unknown 29Tai_Tham 2Unknown 11Tai_Tham 6Unknown 10Tai_Tham 6Unknown 14Tai_Tham 2Unknown
  31Inherited 49Unknown 77Balinese Unknown 50Balinese 64Sundanese 52Batak 8Unknown 4Batak
  56Lepcha 3Unknown 15Lepcha 3Unknown 3Lepcha 48Ol_Chiki 11Cyrillic 5Unknown 43Georgian 2Unknown
  3Georgian 8Sundanese 8Unknown 3Inherited Common 13Inherited Common 7Inherited 4Common Inherited
  6Common Inherited 3Common 2Inherited Common 5Unknown 38Latin 5Greek Cyrillic 49Latin 5Greek
  4Latin 5Greek 13Latin Cyrillic 70Latin Greek 64Inherited 256Latin 22Greek 2Unknown 6Greek
  2Unknown 38Greek 2Unknown 6Greek 2Unknown 8Greek Unknown Greek Unknown Greek Unknown Greek
  Unknown 31Greek 2Unknown 53Greek Unknown 15Greek Unknown 14Greek 2Unknown 6Greek Unknown
  19Greek 2Unknown 3Greek Unknown 9Greek Unknown 12Common 2Inherited 87Common Unknown 11Common
  Latin 2Unknown 11Common Latin 15Common Unknown 13Latin 3Unknown 33Common 15Unknown 33Inherited
  15Unknown 38Common Greek 3Common 2Latin 6Common Latin 27Common Latin 17Common 41Latin 3Common
  4Unknown 666Common 22Unknown 11Common 21Unknown 928Common 256Braille 628Common 2Unknown
  32Common Unknown 105Common 96Glagolitic 32Latin 116Coptic 5Unknown 7Coptic 38Georgian Unknown
  Georgian 5Unknown Georgian 2Unknown 56Tifinagh 7Unknown 2Tifinagh 14Unknown Tifinagh 23Ethiopic
  9Unknown 7Ethiopic Unknown 7Ethiopic Unknown 7Ethiopic Unknown 7Ethiopic Unknown 7Ethiopic
  Unknown 7Ethiopic Unknown 7Ethiopic Unknown 7Ethiopic Unknown 32Cyrillic 94Common 34Unknown
  26Han Unknown 89Han 12Unknown 214Han 26Unknown 21Common Han Common Han 25Common 9Han 4Inherited
  2Hangul 8Common 4Han 4Common Unknown 86Hiragana 2Unknown 2Inherited 2Common 3Hiragana Common
  90Katakana 2Common 3Katakana 5Unknown 43Bopomofo Unknown 94Hangul Unknown 16Common 32Bopomofo
  38Common 9Unknown Common 16Katakana 31Hangul Unknown 64Common 31Hangul 81Common 47Katakana
  Common 88Katakana 168Common 6592Han 64Common 20992Han 1165Yi 3Unknown 55Yi 9Unknown 48Lisu
  300Vai 20Unknown 96Cyrillic 88Bamum 8Unknown 34Common 102Latin 3Common 67Latin 2Unknown 2Latin
  Unknown Latin Unknown 8Latin 21Unknown 14Latin 45Syloti_Nagri 3Unknown 10Common 6Unknown
  56Phags_Pa 8Unknown 70Saurashtra 8Unknown 12Saurashtra 6Unknown 32Devanagari 46Kayah_Li Common
  Kayah_Li 36Rejang 11Unknown Rejang 29Hangul 3Unknown 78Javanese Unknown Common 10Javanese
  4Unknown 2Javanese 31Myanmar Unknown 55Cham 9Unknown 14Cham 2Unknown 10Cham 2Unknown 4Cham
  32Myanmar 67Tai_Viet 24Unknown 5Tai_Viet 23Meetei_Mayek 10Unknown 6Ethiopic 2Unknown 6Ethiopic
  2Unknown 6Ethiopic 9Unknown 7Ethiopic Unknown 7Ethiopic Unknown 43Latin Common 9Latin Greek
  4Latin 2Common 4Unknown 80Cherokee 46Meetei_Mayek 2Unknown 10Meetei_Mayek 6Unknown 11172Hangul
  12Unknown 23Hangul 4Unknown 49Hangul 8452Unknown 366Han 2Unknown 106Han 38Unknown 7Latin
  12Unknown 5Armenian 5Unknown 26Hebrew Unknown 5Hebrew Unknown Hebrew Unknown 2Hebrew Unknown
  2Hebrew Unknown 10Hebrew 115Arabic 16Unknown 363Arabic 2Common 80Arabic 2Unknown 54Arabic
  7Unknown Arabic 32Unknown 16Arabic 16Inherited 10Common 6Unknown 14Inherited 2Cyrillic 35Common
  Unknown 19Common Unknown 4Common 4Unknown 5Arabic Unknown 135Arabic 2Unknown Common Unknown
  32Common 26Latin 6Common 26Latin 11Common 10Katakana Common 45Katakana 2Common 31Hangul
  3Unknown 6Hangul 2Unknown 6Hangul 2Unknown 6Hangul 2Unknown 3Hangul 3Unknown 7Common Unknown
  7Common 10Unknown 5Common 2Unknown 12Linear_B Unknown 26Linear_B Unknown 19Linear_B Unknown
  2Linear_B Unknown 15Linear_B 2Unknown 14Linear_B 34Unknown 123Linear_B 5Unknown 3Common
  4Unknown 45Common 3Unknown 9Common 79Greek Unknown 13Common 3Unknown Greek 47Unknown 45Common
  Inherited 130Unknown 29Lycian 3Unknown 49Carian 15Unknown Inherited 27Common 4Unknown
  36Old_Italic 9Unknown 3Old_Italic 27Gothic 5Unknown 43Old_Permic 5Unknown 30Ugaritic Unknown
  Ugaritic 36Old_Persian 4Unknown 14Old_Persian 42Unknown 80Deseret 48Shavian 30Osmanya 2Unknown
  10Osmanya 6Unknown 36Osage 4Unknown 36Osage 4Unknown 40Elbasan 8Unknown 52Caucasian_Albanian
  11Unknown Caucasian_Albanian 11Vithkuqi Unknown 15Vithkuqi Unknown 7Vithkuqi Unknown 2Vithkuqi
  Unknown 11Vithkuqi Unknown 15Vithkuqi Unknown 7Vithkuqi Unknown 2Vithkuqi 3Unknown 52Todhri
  12Unknown 311Linear_A 9Unknown 22Linear_A 10Unknown 8Linear_A 24Unknown 6Latin Unknown 42Latin
  Unknown 9Latin 69Unknown 6Cypriot 2Unknown Cypriot Unknown 44Cypriot Unknown 2Cypriot 3Unknown
  Cypriot 2Unknown Cypriot 22Imperial_Aramaic Unknown 9Imperial_Aramaic 32Palmyrene 31Nabataean
  8Unknown 9Nabataean 48Unknown 19Hatran Unknown 2Hatran 5Unknown 5Hatran 28Phoenician 3Unknown
  Phoenician 26Lydian 5Unknown Lydian 64Unknown 32Meroitic_Hieroglyphs 24Meroitic_Cursive
  4Unknown 20Meroitic_Cursive 2Unknown 46Meroitic_Cursive 4Kharoshthi Unknown 2Kharoshthi
  5Unknown 8Kharoshthi Unknown 3Kharoshthi Unknown 29Kharoshthi 2Unknown 3Kharoshthi 4Unknown
  10Kharoshthi 7Unknown 9Kharoshthi 7Unknown 32Old_South_Arabian 32Old_North_Arabian 32Unknown
  39Manichaean 4Unknown 12Manichaean 9Unknown 54Avestan 3Unknown 7Avestan
  22Inscriptional_Parthian 2Unknown 8Inscriptional_Parthian 19Inscriptional_Pahlavi 5Unknown
  8Inscriptional_Pahlavi 18Psalter_Pahlavi 7Unknown 4Psalter_Pahlavi 12Unknown 7Psalter_Pahlavi
  80Unknown 73Old_Turkic 55Unknown 51Old_Hungarian 13Unknown 51Old_Hungarian 7Unknown
  6Old_Hungarian 40Hanifi_Rohingya 8Unknown 10Hanifi_Rohingya 6Unknown 38Garay 3Unknown 29Garay
  8Unknown 2Garay 208Unknown 31Arabic Unknown 42Yezidi Unknown 3Yezidi 2Unknown 2Yezidi 16Unknown
  3Arabic 55Unknown 4Arabic 40Old_Sogdian 8Unknown 42Sogdian 22Unknown 26Old_Uyghur 38Unknown
  28Chorasmian 20Unknown 23Elymaic 9Unknown 78Brahmi 4Unknown 36Brahmi 9Unknown Brahmi 67Kaithi
  10Unknown Kaithi 2Unknown 25Sora_Sompeng 7Unknown 10Sora_Sompeng 6Unknown 53Chakma Unknown
  18Chakma 8Unknown 39Mahajani 9Unknown 96Sharada Unknown 20Sinhala 11Unknown 18Khojki Unknown
  47Khojki 62Unknown 7Multani Unknown Multani Unknown 4Multani Unknown 15Multani Unknown
  11Multani 6Unknown 59Khudawadi 5Unknown 10Khudawadi 6Unknown 4Grantha Unknown 8Grantha 2Unknown
  2Grantha 2Unknown 22Grantha Unknown 7Grantha Unknown 2Grantha Unknown 5Grantha Unknown
  Inherited 9Grantha 2Unknown 2Grantha 2Unknown 3Grantha 2Unknown Grantha 6Unknown Grantha
  5Unknown 7Grantha 2Unknown 7Grantha 3Unknown 5Grantha 11Unknown 10Tulu_Tigalari Unknown
  Tulu_Tigalari 2Unknown Tulu_Tigalari Unknown 38Tulu_Tigalari Unknown 10Tulu_Tigalari Unknown
  Tulu_Tigalari 2Unknown Tulu_Tigalari Unknown 4Tulu_Tigalari Unknown 10Tulu_Tigalari Unknown
  2Tulu_Tigalari 8Unknown 2Tulu_Tigalari 29Unknown 92Newa Unknown 5Newa 30Unknown 72Tirhuta
  8Unknown 10Tirhuta 166Unknown 54Siddham 2Unknown 38Siddham 34Unknown 69Modi 11Unknown 10Modi
  6Unknown 13Mongolian 19Unknown 58Takri 6Unknown 10Takri 6Unknown 20Myanmar 28Unknown 27Ahom
  2Unknown 15Ahom 4Unknown 23Ahom 185Unknown 60Dogra 100Unknown 83Warang_Citi 12Unknown
  Warang_Citi 7Dives_Akuru 2Unknown Dives_Akuru 2Unknown 8Dives_Akuru Unknown 2Dives_Akuru
  Unknown 30Dives_Akuru Unknown 2Dives_Akuru 2Unknown 12Dives_Akuru 9Unknown 10Dives_Akuru
  70Unknown 8Nandinagari 2Unknown 46Nandinagari 2Unknown 11Nandinagari 27Unknown
  72Zanabazar_Square 8Unknown 83Soyombo 13Unknown 16Canadian_Aboriginal 57Pau_Cin_Hau 7Unknown
  10Devanagari 182Unknown 34Sunuwar 14Unknown 10Sunuwar 6Unknown 9Bhaiksuki Unknown 45Bhaiksuki
  Unknown 14Bhaiksuki 10Unknown 29Bhaiksuki 3Unknown 32Marchen 2Unknown 22Marchen Unknown
  14Marchen 73Unknown 7Masaram_Gondi Unknown 2Masaram_Gondi Unknown 44Masaram_Gondi 3Unknown
  Masaram_Gondi Unknown 2Masaram_Gondi Unknown 9Masaram_Gondi 8Unknown 10Masaram_Gondi 6Unknown
  6Gunjala_Gondi Unknown 2Gunjala_Gondi Unknown 37Gunjala_Gondi Unknown 2Gunjala_Gondi Unknown
  6Gunjala_Gondi 7Unknown 10Gunjala_Gondi 310Unknown 25Makasar 7Unknown 17Kawi Unknown 41Kawi
  3Unknown 29Kawi 85Unknown Lisu 15Unknown 50Tamil 13Unknown Tamil 922Cuneiform 102Unknown
  111Cuneiform Unknown 5Cuneiform 11Unknown 196Cuneiform 2636Unknown 99Cypro_Minoan 13Unknown
  1110Egyptian_Hieroglyphs 10Unknown 3995Egyptian_Hieroglyphs 5Unknown 583Anatolian_Hieroglyphs
  6841Unknown 58Gurung_Khema 1734Unknown 569Bamum 7Unknown 31Mro Unknown 10Mro 4Unknown 2Mro
  79Tangsa Unknown 10Tangsa 6Unknown 30Bassa_Vah 2Unknown 6Bassa_Vah 10Unknown 70Pahawh_Hmong
  10Unknown 10Pahawh_Hmong Unknown 7Pahawh_Hmong Unknown 21Pahawh_Hmong 5Unknown 19Pahawh_Hmong
  432Unknown 58Kirat_Rai 198Unknown 91Medefaidrin 101Unknown 75Miao 4Unknown 57Miao 7Unknown
  17Miao 64Unknown Tangut Nushu 2Han Khitan_Small_Script 11Unknown 2Han 14Unknown 6136Tangut
  8Unknown 768Tangut 470Khitan_Small_Script 41Unknown Khitan_Small_Script 9Tangut 8935Unknown
  4Katakana Unknown 7Katakana Unknown 2Katakana Unknown Katakana 287Hiragana 3Katakana 15Unknown
  Hiragana 29Unknown 3Hiragana 2Unknown Katakana 14Unknown 4Katakana 8Unknown 396Nushu
  2308Unknown 107Duployan 5Unknown 13Duployan 3Unknown 9Duployan 7Unknown 10Duployan 2Unknown
  4Duployan 4Common 3932Unknown 250Common 6Unknown 436Common 76Unknown 46Inherited 2Unknown
  23Inherited 9Unknown 116Common 60Unknown 246Common 10Unknown 39Common 2Unknown 62Common
  3Inherited 17Common 8Inherited 2Common 7Inherited 30Common 4Inherited 61Common 21Unknown
  70Greek 122Unknown 20Common 12Unknown 20Common 12Unknown 87Common 9Unknown 25Common 135Unknown
  85Common Unknown 71Common Unknown 2Common 2Unknown Common 2Unknown 2Common 2Unknown 4Common
  Unknown 12Common Unknown Common Unknown 7Common Unknown 65Common Unknown 4Common 2Unknown
  8Common Unknown 7Common Unknown 28Common Unknown 4Common Unknown 5Common Unknown Common
  3Unknown 7Common Unknown 340Common 2Unknown 292Common 2Unknown 50Common 652SignWriting
  15Unknown 5SignWriting Unknown 15SignWriting 1104Unknown 31Latin 6Unknown 6Latin 213Unknown
  7Glagolitic Unknown 17Glagolitic 2Unknown 7Glagolitic Unknown 2Glagolitic Unknown 5Glagolitic
  5Unknown 62Cyrillic 33Unknown Cyrillic 112Unknown 45Nyiakeng_Puachue_Hmong 3Unknown
  14Nyiakeng_Puachue_Hmong 2Unknown 10Nyiakeng_Puachue_Hmong 4Unknown 2Nyiakeng_Puachue_Hmong
  320Unknown 31Toto 17Unknown 58Wancho 5Unknown Wancho 464Unknown 42Nag_Mundari 214Unknown
  43Ol_Onal 4Unknown Ol_Onal 480Unknown 7Ethiopic Unknown 4Ethiopic Unknown 2Ethiopic Unknown
  15Ethiopic Unknown 197Mende_Kikakui 2Unknown 16Mende_Kikakui 41Unknown 76Adlam 4Unknown 10Adlam
  4Unknown 2Adlam 785Unknown 68Common 76Unknown 61Common 194Unknown 4Arabic Unknown 27Arabic
  Unknown 2Arabic Unknown Arabic 2Unknown Arabic Unknown 10Arabic Unknown 4Arabic Unknown Arabic
  Unknown Arabic 6Unknown Arabic 4Unknown Arabic Unknown Arabic Unknown Arabic Unknown 3Arabic
  Unknown 2Arabic Unknown Arabic 2Unknown Arabic Unknown Arabic Unknown Arabic Unknown Arabic
  Unknown Arabic Unknown 2Arabic Unknown Arabic 2Unknown 4Arabic Unknown 7Arabic Unknown 4Arabic
  Unknown 4Arabic Unknown Arabic Unknown 10Arabic Unknown 17Arabic 5Unknown 3Arabic Unknown
  5Arabic Unknown 17Arabic 52Unknown 2Arabic 270Unknown 44Common 4Unknown 100Common 12Unknown
  15Common 2Unknown 15Common Unknown 15Common Unknown 37Common 10Unknown 174Common 56Unknown
  26Common Hiragana 2Common 13Unknown 44Common 4Unknown 9Common 7Unknown 2Common 14Unknown
  6Common 154Unknown 984Common 4Unknown 17Common 3Unknown 13Common 3Unknown 119Common 4Unknown
  95Common 6Unknown 12Common 4Unknown Common 15Unknown 12Common 4Unknown 56Common 8Unknown
  10Common 6Unknown 40Common 8Unknown 30Common 2Unknown 12Common 4Unknown 2Common 62Unknown
  340Common 12Unknown 14Common 2Unknown 13Common 3Unknown 10Common 5Unknown 56Common 7Unknown
  15Common 2Unknown 11Common 6Unknown 9Common 7Unknown 147Common Unknown 102Common 1030Unknown
  42720Han 32Unknown 4154Han 6Unknown 222Han 2Unknown 5762Han 14Unknown 7473Han 15Unknown 622Han
  2466Unknown 542Han 1506Unknown 4939Han 5Unknown 4192Han 711761Unknown Common 30Unknown 96Common
  128Unknown 240Inherited 196112Unknown"
  values :=
  [
    (["adlam", "adlm"], ["Adlam"]),
    (["ahom"], ["Ahom"]),
    (["anatolianhieroglyphs", "hluw"], ["Anatolian_Hieroglyphs"]),
    (["arab", "arabic"], ["Arabic"]),
    (["armenian", "armn"], ["Armenian"]),
    (["avestan", "avst"], ["Avestan"]),
    (["bali", "balinese"], ["Balinese"]),
    (["bamu", "bamum"], ["Bamum"]),
    (["bass", "bassavah"], ["Bassa_Vah"]),
    (["batak", "batk"], ["Batak"]),
    (["beng", "bengali"], ["Bengali"]),
    (["bhaiksuki", "bhks"], ["Bhaiksuki"]),
    (["bopo", "bopomofo"], ["Bopomofo"]),
    (["brah", "brahmi"], ["Brahmi"]),
    (["brai", "braille"], ["Braille"]),
    (["bugi", "buginese"], ["Buginese"]),
    (["buhd", "buhid"], ["Buhid"]),
    (["canadianaboriginal", "cans"], ["Canadian_Aboriginal"]),
    (["cari", "carian"], ["Carian"]),
    (["aghb", "caucasianalbanian"], ["Caucasian_Albanian"]),
    (["cakm", "chakma"], ["Chakma"]),
    (["cham"], ["Cham"]),
    (["cher", "cherokee"], ["Cherokee"]),
    (["chorasmian", "chrs"], ["Chorasmian"]),
    (["common", "zyyy"], ["Common"]),
    (["copt", "coptic", "qaac"], ["Coptic"]),
    (["cuneiform", "xsux"], ["Cuneiform"]),
    (["cprt", "cypriot"], ["Cypriot"]),
    (["cpmn", "cyprominoan"], ["Cypro_Minoan"]),
    (["cyrillic", "cyrl"], ["Cyrillic"]),
    (["deseret", "dsrt"], ["Deseret"]),
    (["deva", "devanagari"], ["Devanagari"]),
    (["diak", "divesakuru"], ["Dives_Akuru"]),
    (["dogr", "dogra"], ["Dogra"]),
    (["dupl", "duployan"], ["Duployan"]),
    (["egyp", "egyptianhieroglyphs"], ["Egyptian_Hieroglyphs"]),
    (["elba", "elbasan"], ["Elbasan"]),
    (["elym", "elymaic"], ["Elymaic"]),
    (["ethi", "ethiopic"], ["Ethiopic"]),
    (["gara", "garay"], ["Garay"]),
    (["geor", "georgian"], ["Georgian"]),
    (["glag", "glagolitic"], ["Glagolitic"]),
    (["goth", "gothic"], ["Gothic"]),
    (["gran", "grantha"], ["Grantha"]),
    (["greek", "grek"], ["Greek"]),
    (["gujarati", "gujr"], ["Gujarati"]),
    (["gong", "gunjalagondi"], ["Gunjala_Gondi"]),
    (["gurmukhi", "guru"], ["Gurmukhi"]),
    (["gukh", "gurungkhema"], ["Gurung_Khema"]),
    (["han", "hani"], ["Han"]),
    (["hang", "hangul"], ["Hangul"]),
    (["hanifirohingya", "rohg"], ["Hanifi_Rohingya"]),
    (["hano", "hanunoo"], ["Hanunoo"]),
    (["hatr", "hatran"], ["Hatran"]),
    (["hebr", "hebrew"], ["Hebrew"]),
    (["hira", "hiragana"], ["Hiragana"]),
    (["armi", "imperialaramaic"], ["Imperial_Aramaic"]),
    (["inherited", "qaai", "zinh"], ["Inherited"]),
    (["inscriptionalpahlavi", "phli"], ["Inscriptional_Pahlavi"]),
    (["inscriptionalparthian", "prti"], ["Inscriptional_Parthian"]),
    (["java", "javanese"], ["Javanese"]),
    (["kaithi", "kthi"], ["Kaithi"]),
    (["kannada", "knda"], ["Kannada"]),
    (["kana", "katakana"], ["Katakana"]),
    (["kawi"], ["Kawi"]),
    (["kali", "kayahli"], ["Kayah_Li"]),
    (["khar", "kharoshthi"], ["Kharoshthi"]),
    (["khitansmallscript", "kits"], ["Khitan_Small_Script"]),
    (["khmer", "khmr"], ["Khmer"]),
    (["khoj", "khojki"], ["Khojki"]),
    (["khudawadi", "sind"], ["Khudawadi"]),
    (["kiratrai", "krai"], ["Kirat_Rai"]),
    (["lao", "laoo"], ["Lao"]),
    (["latin", "latn"], ["Latin"]),
    (["lepc", "lepcha"], ["Lepcha"]),
    (["limb", "limbu"], ["Limbu"]),
    (["lina", "lineara"], ["Linear_A"]),
    (["linb", "linearb"], ["Linear_B"]),
    (["lisu"], ["Lisu"]),
    (["lyci", "lycian"], ["Lycian"]),
    (["lydi", "lydian"], ["Lydian"]),
    (["mahajani", "mahj"], ["Mahajani"]),
    (["maka", "makasar"], ["Makasar"]),
    (["malayalam", "mlym"], ["Malayalam"]),
    (["mand", "mandaic"], ["Mandaic"]),
    (["mani", "manichaean"], ["Manichaean"]),
    (["marc", "marchen"], ["Marchen"]),
    (["gonm", "masaramgondi"], ["Masaram_Gondi"]),
    (["medefaidrin", "medf"], ["Medefaidrin"]),
    (["meeteimayek", "mtei"], ["Meetei_Mayek"]),
    (["mend", "mendekikakui"], ["Mende_Kikakui"]),
    (["merc", "meroiticcursive"], ["Meroitic_Cursive"]),
    (["mero", "meroitichieroglyphs"], ["Meroitic_Hieroglyphs"]),
    (["miao", "plrd"], ["Miao"]),
    (["modi"], ["Modi"]),
    (["mong", "mongolian"], ["Mongolian"]),
    (["mro", "mroo"], ["Mro"]),
    (["mult", "multani"], ["Multani"]),
    (["myanmar", "mymr"], ["Myanmar"]),
    (["nabataean", "nbat"], ["Nabataean"]),
    (["nagm", "nagmundari"], ["Nag_Mundari"]),
    (["nand", "nandinagari"], ["Nandinagari"]),
    (["newtailue", "talu"], ["New_Tai_Lue"]),
    (["newa"], ["Newa"]),
    (["nko", "nkoo"], ["Nko"]),
    (["nshu", "nushu"], ["Nushu"]),
    (["hmnp", "nyiakengpuachuehmong"], ["Nyiakeng_Puachue_Hmong"]),
    (["ogam", "ogham"], ["Ogham"]),
    (["olchiki", "olck"], ["Ol_Chiki"]),
    (["olonal", "onao"], ["Ol_Onal"]),
    (["hung", "oldhungarian"], ["Old_Hungarian"]),
    (["ital", "olditalic"], ["Old_Italic"]),
    (["narb", "oldnortharabian"], ["Old_North_Arabian"]),
    (["oldpermic", "perm"], ["Old_Permic"]),
    (["oldpersian", "xpeo"], ["Old_Persian"]),
    (["oldsogdian", "sogo"], ["Old_Sogdian"]),
    (["oldsoutharabian", "sarb"], ["Old_South_Arabian"]),
    (["oldturkic", "orkh"], ["Old_Turkic"]),
    (["olduyghur", "ougr"], ["Old_Uyghur"]),
    (["oriya", "orya"], ["Oriya"]),
    (["osage", "osge"], ["Osage"]),
    (["osma", "osmanya"], ["Osmanya"]),
    (["hmng", "pahawhhmong"], ["Pahawh_Hmong"]),
    (["palm", "palmyrene"], ["Palmyrene"]),
    (["pauc", "paucinhau"], ["Pau_Cin_Hau"]),
    (["phag", "phagspa"], ["Phags_Pa"]),
    (["phnx", "phoenician"], ["Phoenician"]),
    (["phlp", "psalterpahlavi"], ["Psalter_Pahlavi"]),
    (["rejang", "rjng"], ["Rejang"]),
    (["runic", "runr"], ["Runic"]),
    (["samaritan", "samr"], ["Samaritan"]),
    (["saur", "saurashtra"], ["Saurashtra"]),
    (["sharada", "shrd"], ["Sharada"]),
    (["shavian", "shaw"], ["Shavian"]),
    (["sidd", "siddham"], ["Siddham"]),
    (["sgnw", "signwriting"], ["SignWriting"]),
    (["sinh", "sinhala"], ["Sinhala"]),
    (["sogd", "sogdian"], ["Sogdian"]),
    (["sora", "sorasompeng"], ["Sora_Sompeng"]),
    (["soyo", "soyombo"], ["Soyombo"]),
    (["sund", "sundanese"], ["Sundanese"]),
    (["sunu", "sunuwar"], ["Sunuwar"]),
    (["sylo", "sylotinagri"], ["Syloti_Nagri"]),
    (["syrc", "syriac"], ["Syriac"]),
    (["tagalog", "tglg"], ["Tagalog"]),
    (["tagb", "tagbanwa"], ["Tagbanwa"]),
    (["taile", "tale"], ["Tai_Le"]),
    (["lana", "taitham"], ["Tai_Tham"]),
    (["taiviet", "tavt"], ["Tai_Viet"]),
    (["takr", "takri"], ["Takri"]),
    (["tamil", "taml"], ["Tamil"]),
    (["tangsa", "tnsa"], ["Tangsa"]),
    (["tang", "tangut"], ["Tangut"]),
    (["telu", "telugu"], ["Telugu"]),
    (["thaa", "thaana"], ["Thaana"]),
    (["thai"], ["Thai"]),
    (["tibetan", "tibt"], ["Tibetan"]),
    (["tfng", "tifinagh"], ["Tifinagh"]),
    (["tirh", "tirhuta"], ["Tirhuta"]),
    (["todhri", "todr"], ["Todhri"]),
    (["toto"], ["Toto"]),
    (["tulutigalari", "tutg"], ["Tulu_Tigalari"]),
    (["ugar", "ugaritic"], ["Ugaritic"]),
    (["vai", "vaii"], ["Vai"]),
    (["vith", "vithkuqi"], ["Vithkuqi"]),
    (["wancho", "wcho"], ["Wancho"]),
    (["wara", "warangciti"], ["Warang_Citi"]),
    (["yezi", "yezidi"], ["Yezidi"]),
    (["yi", "yiii"], ["Yi"]),
    (["zanabazarsquare", "zanb"], ["Zanabazar_Square"])
  ]

/-- The code points of the script with this name. -/
def named? (name : String) : Option Ranges := partition.named? name

end Rollup.Unicode.Script
