import RuleLexer.Unicode.Run

/-! The scripts of the character database and the names a pattern may use for them. -/

namespace RuleLexer.Unicode

inductive Script
  | adlam | ahom | anatolianHieroglyphs | arabic | armenian | avestan | balinese | bamum
  | bassaVah | batak | bengali | bhaiksuki | bopomofo | brahmi | braille | buginese | buhid
  | canadianAboriginal | carian | caucasianAlbanian | chakma | cham | cherokee | chorasmian
  | common | coptic | cuneiform | cypriot | cyproMinoan | cyrillic | deseret | devanagari
  | divesAkuru | dogra | duployan | egyptianHieroglyphs | elbasan | elymaic | ethiopic | garay
  | georgian | glagolitic | gothic | grantha | greek | gujarati | gunjalaGondi | gurmukhi
  | gurungKhema | han | hangul | hanifiRohingya | hanunoo | hatran | hebrew | hiragana
  | imperialAramaic | inherited | inscriptionalPahlavi | inscriptionalParthian | javanese
  | kaithi | kannada | katakana | kawi | kayahLi | kharoshthi | khitanSmallScript | khmer
  | khojki | khudawadi | kiratRai | lao | latin | lepcha | limbu | linearA | linearB | lisu
  | lycian | lydian | mahajani | makasar | malayalam | mandaic | manichaean | marchen
  | masaramGondi | medefaidrin | meeteiMayek | mendeKikakui | meroiticCursive
  | meroiticHieroglyphs | miao | modi | mongolian | mro | multani | myanmar | nabataean
  | nagMundari | nandinagari | newTaiLue | newa | nko | nushu | nyiakengPuachueHmong | ogham
  | olChiki | olOnal | oldHungarian | oldItalic | oldNorthArabian | oldPermic | oldPersian
  | oldSogdian | oldSouthArabian | oldTurkic | oldUyghur | oriya | osage | osmanya | pahawhHmong
  | palmyrene | pauCinHau | phagsPa | phoenician | psalterPahlavi | rejang | runic | samaritan
  | saurashtra | sharada | shavian | siddham | signwriting | sinhala | sogdian | soraSompeng
  | soyombo | sundanese | sunuwar | sylotiNagri | syriac | tagalog | tagbanwa | taiLe | taiTham
  | taiViet | takri | tamil | tangsa | tangut | telugu | thaana | thai | tibetan | tifinagh
  | tirhuta | todhri | toto | tuluTigalari | ugaritic | vai | vithkuqi | wancho | warangCiti
  | yezidi | yi | zanabazarSquare
  deriving DecidableEq

/-- Every script with its names, lower case and without separators. -/
def Script.names : List (Script × List String) := [
  (.adlam, ["adlm", "adlam"]),
  (.ahom, ["ahom"]),
  (.anatolianHieroglyphs, ["hluw", "anatolianhieroglyphs"]),
  (.arabic, ["arab", "arabic"]),
  (.armenian, ["armn", "armenian"]),
  (.avestan, ["avst", "avestan"]),
  (.balinese, ["bali", "balinese"]),
  (.bamum, ["bamu", "bamum"]),
  (.bassaVah, ["bass", "bassavah"]),
  (.batak, ["batk", "batak"]),
  (.bengali, ["beng", "bengali"]),
  (.bhaiksuki, ["bhks", "bhaiksuki"]),
  (.bopomofo, ["bopo", "bopomofo"]),
  (.brahmi, ["brah", "brahmi"]),
  (.braille, ["brai", "braille"]),
  (.buginese, ["bugi", "buginese"]),
  (.buhid, ["buhd", "buhid"]),
  (.canadianAboriginal, ["cans", "canadianaboriginal"]),
  (.carian, ["cari", "carian"]),
  (.caucasianAlbanian, ["aghb", "caucasianalbanian"]),
  (.chakma, ["cakm", "chakma"]),
  (.cham, ["cham"]),
  (.cherokee, ["cher", "cherokee"]),
  (.chorasmian, ["chrs", "chorasmian"]),
  (.common, ["zyyy", "common"]),
  (.coptic, ["copt", "qaac", "coptic"]),
  (.cuneiform, ["xsux", "cuneiform"]),
  (.cypriot, ["cprt", "cypriot"]),
  (.cyproMinoan, ["cpmn", "cyprominoan"]),
  (.cyrillic, ["cyrl", "cyrillic"]),
  (.deseret, ["dsrt", "deseret"]),
  (.devanagari, ["deva", "devanagari"]),
  (.divesAkuru, ["diak", "divesakuru"]),
  (.dogra, ["dogr", "dogra"]),
  (.duployan, ["dupl", "duployan"]),
  (.egyptianHieroglyphs, ["egyp", "egyptianhieroglyphs"]),
  (.elbasan, ["elba", "elbasan"]),
  (.elymaic, ["elym", "elymaic"]),
  (.ethiopic, ["ethi", "ethiopic"]),
  (.garay, ["gara", "garay"]),
  (.georgian, ["geor", "georgian"]),
  (.glagolitic, ["glag", "glagolitic"]),
  (.gothic, ["goth", "gothic"]),
  (.grantha, ["gran", "grantha"]),
  (.greek, ["grek", "greek"]),
  (.gujarati, ["gujr", "gujarati"]),
  (.gunjalaGondi, ["gong", "gunjalagondi"]),
  (.gurmukhi, ["guru", "gurmukhi"]),
  (.gurungKhema, ["gukh", "gurungkhema"]),
  (.han, ["hani", "han"]),
  (.hangul, ["hang", "hangul"]),
  (.hanifiRohingya, ["rohg", "hanifirohingya"]),
  (.hanunoo, ["hano", "hanunoo"]),
  (.hatran, ["hatr", "hatran"]),
  (.hebrew, ["hebr", "hebrew"]),
  (.hiragana, ["hira", "hiragana"]),
  (.imperialAramaic, ["armi", "imperialaramaic"]),
  (.inherited, ["qaai", "zinh", "inherited"]),
  (.inscriptionalPahlavi, ["phli", "inscriptionalpahlavi"]),
  (.inscriptionalParthian, ["prti", "inscriptionalparthian"]),
  (.javanese, ["java", "javanese"]),
  (.kaithi, ["kthi", "kaithi"]),
  (.kannada, ["knda", "kannada"]),
  (.katakana, ["kana", "katakana"]),
  (.kawi, ["kawi"]),
  (.kayahLi, ["kali", "kayahli"]),
  (.kharoshthi, ["khar", "kharoshthi"]),
  (.khitanSmallScript, ["kits", "khitansmallscript"]),
  (.khmer, ["khmr", "khmer"]),
  (.khojki, ["khoj", "khojki"]),
  (.khudawadi, ["sind", "khudawadi"]),
  (.kiratRai, ["krai", "kiratrai"]),
  (.lao, ["laoo", "lao"]),
  (.latin, ["latn", "latin"]),
  (.lepcha, ["lepc", "lepcha"]),
  (.limbu, ["limb", "limbu"]),
  (.linearA, ["lina", "lineara"]),
  (.linearB, ["linb", "linearb"]),
  (.lisu, ["lisu"]),
  (.lycian, ["lyci", "lycian"]),
  (.lydian, ["lydi", "lydian"]),
  (.mahajani, ["mahj", "mahajani"]),
  (.makasar, ["maka", "makasar"]),
  (.malayalam, ["mlym", "malayalam"]),
  (.mandaic, ["mand", "mandaic"]),
  (.manichaean, ["mani", "manichaean"]),
  (.marchen, ["marc", "marchen"]),
  (.masaramGondi, ["gonm", "masaramgondi"]),
  (.medefaidrin, ["medf", "medefaidrin"]),
  (.meeteiMayek, ["mtei", "meeteimayek"]),
  (.mendeKikakui, ["mend", "mendekikakui"]),
  (.meroiticCursive, ["merc", "meroiticcursive"]),
  (.meroiticHieroglyphs, ["mero", "meroitichieroglyphs"]),
  (.miao, ["plrd", "miao"]),
  (.modi, ["modi"]),
  (.mongolian, ["mong", "mongolian"]),
  (.mro, ["mroo", "mro"]),
  (.multani, ["mult", "multani"]),
  (.myanmar, ["mymr", "myanmar"]),
  (.nabataean, ["nbat", "nabataean"]),
  (.nagMundari, ["nagm", "nagmundari"]),
  (.nandinagari, ["nand", "nandinagari"]),
  (.newTaiLue, ["talu", "newtailue"]),
  (.newa, ["newa"]),
  (.nko, ["nkoo", "nko"]),
  (.nushu, ["nshu", "nushu"]),
  (.nyiakengPuachueHmong, ["hmnp", "nyiakengpuachuehmong"]),
  (.ogham, ["ogam", "ogham"]),
  (.olChiki, ["olck", "olchiki"]),
  (.olOnal, ["onao", "olonal"]),
  (.oldHungarian, ["hung", "oldhungarian"]),
  (.oldItalic, ["ital", "olditalic"]),
  (.oldNorthArabian, ["narb", "oldnortharabian"]),
  (.oldPermic, ["perm", "oldpermic"]),
  (.oldPersian, ["xpeo", "oldpersian"]),
  (.oldSogdian, ["sogo", "oldsogdian"]),
  (.oldSouthArabian, ["sarb", "oldsoutharabian"]),
  (.oldTurkic, ["orkh", "oldturkic"]),
  (.oldUyghur, ["ougr", "olduyghur"]),
  (.oriya, ["orya", "oriya"]),
  (.osage, ["osge", "osage"]),
  (.osmanya, ["osma", "osmanya"]),
  (.pahawhHmong, ["hmng", "pahawhhmong"]),
  (.palmyrene, ["palm", "palmyrene"]),
  (.pauCinHau, ["pauc", "paucinhau"]),
  (.phagsPa, ["phag", "phagspa"]),
  (.phoenician, ["phnx", "phoenician"]),
  (.psalterPahlavi, ["phlp", "psalterpahlavi"]),
  (.rejang, ["rjng", "rejang"]),
  (.runic, ["runr", "runic"]),
  (.samaritan, ["samr", "samaritan"]),
  (.saurashtra, ["saur", "saurashtra"]),
  (.sharada, ["shrd", "sharada"]),
  (.shavian, ["shaw", "shavian"]),
  (.siddham, ["sidd", "siddham"]),
  (.signwriting, ["sgnw", "signwriting"]),
  (.sinhala, ["sinh", "sinhala"]),
  (.sogdian, ["sogd", "sogdian"]),
  (.soraSompeng, ["sora", "sorasompeng"]),
  (.soyombo, ["soyo", "soyombo"]),
  (.sundanese, ["sund", "sundanese"]),
  (.sunuwar, ["sunu", "sunuwar"]),
  (.sylotiNagri, ["sylo", "sylotinagri"]),
  (.syriac, ["syrc", "syriac"]),
  (.tagalog, ["tglg", "tagalog"]),
  (.tagbanwa, ["tagb", "tagbanwa"]),
  (.taiLe, ["tale", "taile"]),
  (.taiTham, ["lana", "taitham"]),
  (.taiViet, ["tavt", "taiviet"]),
  (.takri, ["takr", "takri"]),
  (.tamil, ["taml", "tamil"]),
  (.tangsa, ["tnsa", "tangsa"]),
  (.tangut, ["tang", "tangut"]),
  (.telugu, ["telu", "telugu"]),
  (.thaana, ["thaa", "thaana"]),
  (.thai, ["thai"]),
  (.tibetan, ["tibt", "tibetan"]),
  (.tifinagh, ["tfng", "tifinagh"]),
  (.tirhuta, ["tirh", "tirhuta"]),
  (.todhri, ["todr", "todhri"]),
  (.toto, ["toto"]),
  (.tuluTigalari, ["tutg", "tulutigalari"]),
  (.ugaritic, ["ugar", "ugaritic"]),
  (.vai, ["vaii", "vai"]),
  (.vithkuqi, ["vith", "vithkuqi"]),
  (.wancho, ["wcho", "wancho"]),
  (.warangCiti, ["wara", "warangciti"]),
  (.yezidi, ["yezi", "yezidi"]),
  (.yi, ["yiii", "yi"]),
  (.zanabazarSquare, ["zanb", "zanabazarsquare"])]

end RuleLexer.Unicode
