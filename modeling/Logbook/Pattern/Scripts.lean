import Logbook.Pattern.NamedSet

/-!
# Scripts

The scripts of characters after version 16 of Unicode: for each the characters that belong to it,
and the ones that are used with it.
-/

namespace Logbook.Pattern

/-- The characters that belong to a script. -/
def scripts : List NamedSet :=
  [⟨["adlm", "adlam"], .ofText
    "2olc 23 5 9 5 1"⟩,
   ⟨["aghb", "caucasianalbanian"], .ofText
    "1flc 1f c 0"⟩,
   ⟨["ahom"], .ofText
    "1j40 q 3 e 5 m"⟩,
   ⟨["arab", "arabic"], .ofText
    "16o 4 2 5 2 d 2 2 2 v 2 9 c p 2 2z 2 x 29 1b 6p u 2 1 6 22 2 s 1bv5 36 h a2 3 27 3 1h 8 0 x
    f 35 4 2 3q 31g u 1w 2 1k 3 181t 3 2 q 2 1 2 0 3 0 2 9 2 3 2 0 2 0 7 0 5 0 2 0 2 0 2 2 2 1 2
    0 3 0 2 0 2 0 2 0 2 0 2 1 2 0 3 3 2 6 2 3 2 3 2 0 2 9 2 g 6 2 2 4 2 g 1h 1"⟩,
   ⟨["armi", "imperialaramaic"], .ofText
    "1g74 l 2 8"⟩,
   ⟨["armn", "armenian"], .ofText
    "10x 11 3 1d 3 2 1chw 4"⟩,
   ⟨["avst", "avestan"], .ofText
    "1gqo 1h 4 6"⟩,
   ⟨["bali", "balinese"], .ofText
    "5c0 24 2 1d"⟩,
   ⟨["bamu", "bamum"], .ofText
    "www 2f 124p fs"⟩,
   ⟨["bass", "bassavah"], .ofText
    "1zo0 t 3 5"⟩,
   ⟨["batk", "batak"], .ofText
    "5hc 1f 9 3"⟩,
   ⟨["beng", "bengali"], .ofText
    "1vk 3 2 7 3 1 3 l 2 6 2 0 4 3 3 8 3 1 3 3 9 0 5 1 2 4 3 o"⟩,
   ⟨["bhks", "bhaiksuki"], .ofText
    "1k3k 8 2 18 2 d b s"⟩,
   ⟨["bopo", "bopomofo"], .ofText
    "kq 1 93u 16 35 v"⟩,
   ⟨["brah", "brahmi"], .ofText
    "1hq8 25 5 z a 0"⟩,
   ⟨["brai", "braille"], .ofText
    "7wg 73"⟩,
   ⟨["bugi", "buginese"], .ofText
    "54w r 3 1"⟩,
   ⟨["buhd", "buhid"], .ofText
    "4lc j"⟩,
   ⟨["cakm", "chakma"], .ofText
    "1hxc 1g 2 h"⟩,
   ⟨["cans", "canadianaboriginal"], .ofText
    "3y8 hr fl 1x 1ewr f"⟩,
   ⟨["cari", "carian"], .ofText
    "1f34 1c"⟩,
   ⟨["cham"], .ofText
    "xkw 1i a d 3 9 3 3"⟩,
   ⟨["cher", "cherokee"], .ofText
    "3vk 2d 3 5 twz 27"⟩,
   ⟨["chrs", "chorasmian"], .ofText
    "1ho0 r"⟩,
   ⟨["copt", "coptic", "qaac"], .ofText
    "rm d 80h 37 6 6"⟩,
   ⟨["cpmn", "cyprominoan"], .ofText
    "1nyo 2q"⟩,
   ⟨["cprt", "cypriot"], .ofText
    "1g5c 5 3 0 2 17 2 1 4 0 3 0"⟩,
   ⟨["cyrl", "cyrillic"], .ofText
    "sg 3o 3 4o 4lt a 4h 0 25 0 38o v nr5 2n han 1 18n5 1p y 0"⟩,
   ⟨["deva", "devanagari"], .ofText
    "1s0 28 5 e 3 p vhd v mip 9"⟩,
   ⟨["diak", "divesakuru"], .ofText
    "1ji8 6 3 0 3 7 2 1 2 t 2 1 3 b a 9"⟩,
   ⟨["dogr", "dogra"], .ofText
    "1jb4 1n"⟩,
   ⟨["dsrt", "deseret"], .ofText
    "1fcw 27"⟩,
   ⟨["dupl", "duployan"], .ofText
    "2fpc 2y 6 c 4 8 8 9 3 3"⟩,
   ⟨["egyp", "egyptianhieroglyphs"], .ofText
    "1o1s ut b 32y"⟩,
   ⟨["elba", "elbasan"], .ofText
    "1fk0 13"⟩,
   ⟨["elym", "elymaic"], .ofText
    "1hpc m"⟩,
   ⟨["ethi", "ethiopic"], .ofText
    "3k0 20 2 3 3 6 2 0 2 3 3 14 2 3 3 w 2 3 3 6 2 0 2 3 3 e 2 1k 2 3 3 1u 3 v 4 p 547 m a 6 2 6
    2 6 2 6 2 6 2 6 2 6 2 6 opv 5 3 5 3 5 a 6 2 6 1qk2 6 2 3 2 1 2 e"⟩,
   ⟨["geor", "georgian"], .ofText
    "3a8 11 2 0 6 0 3 16 2 3 2a9 16 3 2 37l 11 2 0 6 0"⟩,
   ⟨["glag", "glagolitic"], .ofText
    "8ow 2n 2e1t 6 2 g 3 6 2 1 2 4"⟩,
   ⟨["gong", "gunjalagondi"], .ofText
    "1kdc 5 2 1 2 10 2 1 2 5 8 9"⟩,
   ⟨["gonm", "masaramgondi"], .ofText
    "1kao 6 2 1 2 17 4 0 2 1 2 8 9 9"⟩,
   ⟨["goth", "gothic"], .ofText
    "1f74 q"⟩,
   ⟨["gran", "grantha"], .ofText
    "1ibk 3 2 7 3 1 3 l 2 6 2 1 2 4 3 8 3 1 3 2 3 0 7 0 6 6 3 6 4 4"⟩,
   ⟨["grek", "greek"], .ofText
    "og 3 2 2 3 3 2 0 5 0 2 0 2 2 2 0 2 j 2 1q f f 4yv 4 1f 4 5 4 2d 0 8x l 3 5 3 11 3 5 3 7 2 0
    2 0 2 0 2 u 3 1g 2 e 2 d 3 5 2 i 3 2 2 8 88 0 rb3 0 gyj 26 i 0 155s 1x"⟩,
   ⟨["gujr", "gujarati"], .ofText
    "22p 2 2 8 2 2 2 l 2 6 2 1 2 4 3 9 2 2 2 2 3 0 g 3 3 b 8 6"⟩,
   ⟨["guru", "gurmukhi"], .ofText
    "1z5 2 2 5 5 1 3 l 2 6 2 1 2 1 2 1 3 0 2 4 5 1 3 2 4 0 8 3 2 0 8 g"⟩,
   ⟨["hang", "hangul"], .ofText
    "3cw 73 5yn 1 76 2l 36 u 1u u nhe s hw 8mb d m 5 1c 7tx u 4 5 3 5 3 5 3 2"⟩,
   ⟨["hani", "han"], .ofText
    "96o p 2 2g d 5x 1c 0 2 0 q 8 f 3 qt 533 1t g73 hkx a5 3 2x n49 1 d 1 sgf wyn x 37d 7 65 3
    4g1 f 5rk g h9 1wj f1 15v 3t6 6 38f"⟩,
   ⟨["hano", "hanunoo"], .ofText
    "4kg k"⟩,
   ⟨["hatr", "hatran"], .ofText
    "1gbk i 2 1 6 4"⟩,
   ⟨["hebr", "hebrew"], .ofText
    "13l 1i 9 q 5 5 1cfd p 2 4 2 0 2 1 2 1 2 9"⟩,
   ⟨["hira", "hiragana"], .ofText
    "9j5 2d 7 2 23qa 7y j 0 u 2 cry 0"⟩,
   ⟨["hluw", "anatolianhieroglyphs"], .ofText
    "1s00 g6"⟩,
   ⟨["hmng", "pahawhhmong"], .ofText
    "1zpc 1x b 9 2 6 2 k 6 i"⟩,
   ⟨["hmnp", "nyiakengpuachuehmong"], .ofText
    "2n0g 18 4 d 3 9 5 1"⟩,
   ⟨["hung", "oldhungarian"], .ofText
    "1h1c 1e e 1e 8 5"⟩,
   ⟨["ital", "olditalic"], .ofText
    "1f5s z a 2"⟩,
   ⟨["java", "javanese"], .ofText
    "xhc 25 3 9 5 1"⟩,
   ⟨["kali", "kayahli"], .ofText
    "xds 19 2 0"⟩,
   ⟨["kana", "katakana"], .ofText
    "9lt 2h 3 2 6p f 5t 1a 2 2f 14b3 9 2 18 ytv 3 2 6 2 1 2 0 80 2 1f 0 f 3"⟩,
   ⟨["kawi"], .ofText
    "1kow g 2 14 4 s"⟩,
   ⟨["khar", "kharoshthi"], .ofText
    "1gjk 3 2 1 6 7 2 2 2 s 3 2 5 9 8 8"⟩,
   ⟨["khmr", "khmer"], .ofText
    "4n4 2l 3 9 7 9 dj v"⟩,
   ⟨["khoj", "khojki"], .ofText
    "1i4g h 2 1a"⟩,
   ⟨["kits", "khitansmallscript"], .ofText
    "20o4 0 5cs d1 16 0"⟩,
   ⟨["knda", "kannada"], .ofText
    "2gw c 2 2 2 m 2 9 2 4 3 8 2 2 2 3 8 1 7 1 2 3 3 9 2 2"⟩,
   ⟨["kthi", "kaithi"], .ofText
    "1hts 1u b 0"⟩,
   ⟨["lana", "taitham"], .ofText
    "55s 1q 2 s 3 a 7 9 7 d"⟩,
   ⟨["laoo", "lao"], .ofText
    "2v5 1 2 0 2 4 2 n 2 0 2 m 3 4 2 0 2 6 2 9 3 3"⟩,
   ⟨["latn", "latin"], .ofText
    "1t p 7 p 1c 0 g 0 6 m 2 u 2 cg 14 4 55o 11 7 1c 6 3 6 c 2 1x 1u 73 aa 0 e 0 h c 3y 1 7 0 s 0
    i 14 254 v o83 2t 4 1u 3 1 2 0 2 7 m d mp 16 2 8 2 3 fpz 6 t7 p 7 p 1ly 5 2 15 2 8 16iu u 7
    5"⟩,
   ⟨["lepc", "lepcha"], .ofText
    "5j4 1j 4 e 4 2"⟩,
   ⟨["limb", "limbu"], .ofText
    "4xs u 2 b 5 b 5 0 4 b"⟩,
   ⟨["lina", "lineara"], .ofText
    "1fr4 8m a l b 7"⟩,
   ⟨["linb", "linearb"], .ofText
    "1ekg b 2 p 2 i 2 1 2 e 3 d z 3e"⟩,
   ⟨["lisu"], .ofText
    "wk0 1b o8h 0"⟩,
   ⟨["lyci", "lycian"], .ofText
    "1f28 s"⟩,
   ⟨["lydi", "lydian"], .ofText
    "1gdc p 6 0"⟩,
   ⟨["mahj", "mahajani"], .ofText
    "1hzk 12"⟩,
   ⟨["maka", "makasar"], .ofText
    "1ko0 o"⟩,
   ⟨["mand", "mandaic"], .ofText
    "1mo r 3 0"⟩,
   ⟨["mani", "manichaean"], .ofText
    "1gow 12 5 b"⟩,
   ⟨["marc", "marchen"], .ofText
    "1k6o v 3 l 2 d"⟩,
   ⟨["medf", "medefaidrin"], .ofText
    "20cg 2i"⟩,
   ⟨["mend", "mendekikakui"], .ofText
    "2oe8 5g 3 f"⟩,
   ⟨["merc", "meroiticcursive"], .ofText
    "1ggw n 5 j 3 19"⟩,
   ⟨["mero", "meroitichieroglyphs"], .ofText
    "1gg0 v"⟩,
   ⟨["mlym", "malayalam"], .ofText
    "2kg c 2 2 2 1e 2 2 2 5 5 f 3 p"⟩,
   ⟨["modi"], .ofText
    "1iww 1w c 9"⟩,
   ⟨["mong", "mongolian"], .ofText
    "4qo 1 3 0 2 j 7 2g 8 16 1e46 c"⟩,
   ⟨["mroo", "mro"], .ofText
    "1zk0 u 2 9 5 1"⟩,
   ⟨["mtei", "meeteimayek"], .ofText
    "xr4 m 5m 19 3 9"⟩,
   ⟨["mult", "multani"], .ofText
    "1i80 6 2 0 2 3 2 e 2 a"⟩,
   ⟨["mymr", "myanmar"], .ofText
    "35s 4f u9t u 2q v le9 j"⟩,
   ⟨["nagm", "nagmundari"], .ofText
    "2nrk 15"⟩,
   ⟨["nand", "nandinagari"], .ofText
    "1jmo 7 3 19 3 a"⟩,
   ⟨["narb", "oldnortharabian"], .ofText
    "1gn4 v"⟩,
   ⟨["nbat", "nabataean"], .ofText
    "1g8w u 9 8"⟩,
   ⟨["newa"], .ofText
    "1iio 2j 2 4"⟩,
   ⟨["nkoo", "nko"], .ofText
    "1j4 1m 3 2"⟩,
   ⟨["nshu", "nushu"], .ofText
    "20o1 0 cy7 az"⟩,
   ⟨["ogam", "ogham"], .ofText
    "4g0 s"⟩,
   ⟨["olck", "olchiki"], .ofText
    "5lc 1b"⟩,
   ⟨["orkh", "oldturkic"], .ofText
    "1gxs 20"⟩,
   ⟨["orya", "oriya"], .ofText
    "269 2 2 7 3 1 3 l 2 6 2 1 2 4 3 8 3 1 3 2 8 2 5 1 2 4 3 h"⟩,
   ⟨["osge", "osage"], .ofText
    "1fhs z 5 z"⟩,
   ⟨["osma", "osmanya"], .ofText
    "1fgg t 3 9"⟩,
   ⟨["ougr", "olduyghur"], .ofText
    "1hm8 p"⟩,
   ⟨["palm", "palmyrene"], .ofText
    "1g80 v"⟩,
   ⟨["pauc", "paucinhau"], .ofText
    "1juo 1k"⟩,
   ⟨["perm", "oldpermic"], .ofText
    "1f80 16"⟩,
   ⟨["phag", "phagspa"], .ofText
    "x8g 1j"⟩,
   ⟨["phli", "inscriptionalpahlavi"], .ofText
    "1gtc i 6 7"⟩,
   ⟨["phlp", "psalterpahlavi"], .ofText
    "1gu8 h 8 3 d 6"⟩,
   ⟨["phnx", "phoenician"], .ofText
    "1gcg r 4 0"⟩,
   ⟨["plrd", "miao"], .ofText
    "20hs 22 5 1k 8 g"⟩,
   ⟨["prti", "inscriptionalparthian"], .ofText
    "1gsg l 3 7"⟩,
   ⟨["rjng", "rejang"], .ofText
    "xf4 z c 0"⟩,
   ⟨["rohg", "hanifirohingya"], .ofText
    "1h4w 13 9 9"⟩,
   ⟨["runr", "runic"], .ofText
    "4gw 22 4 a"⟩,
   ⟨["samr", "samaritan"], .ofText
    "1kw 19 3 e"⟩,
   ⟨["sarb", "oldsoutharabian"], .ofText
    "1gm8 v"⟩,
   ⟨["saur", "saurashtra"], .ofText
    "xa8 1x 9 b"⟩,
   ⟨["sgnw", "signwriting"], .ofText
    "2l8g i3 g 4 2 e"⟩,
   ⟨["shaw", "shavian"], .ofText
    "1ff4 1b"⟩,
   ⟨["shrd", "sharada"], .ofText
    "1i0w 2n"⟩,
   ⟨["sidd", "siddham"], .ofText
    "1itc 1h 3 11"⟩,
   ⟨["sind", "khudawadi"], .ofText
    "1i9c 1m 6 9"⟩,
   ⟨["sinh", "sinhala"], .ofText
    "2o1 2 2 h 4 n 2 8 2 0 3 6 4 0 5 5 2 0 2 7 7 9 3 2 1fcd j"⟩,
   ⟨["sogd", "sogdian"], .ofText
    "1hkg 15"⟩,
   ⟨["sogo", "oldsogdian"], .ofText
    "1hj4 13"⟩,
   ⟨["sora", "sorasompeng"], .ofText
    "1hw0 o 8 9"⟩,
   ⟨["soyo", "soyombo"], .ofText
    "1jrk 2a"⟩,
   ⟨["sund", "sundanese"], .ofText
    "5fk 1r 75 7"⟩,
   ⟨["sylo", "sylotinagri"], .ofText
    "x6o 18"⟩,
   ⟨["syrc", "syriac"], .ofText
    "1ds d 2 1n 3 2 7l a"⟩,
   ⟨["tagb", "tagbanwa"], .ofText
    "4m8 c 2 2 2 1"⟩,
   ⟨["takr", "takri"], .ofText
    "1j0g 1l 7 9"⟩,
   ⟨["tale", "taile"], .ofText
    "500 t 3 4"⟩,
   ⟨["talu", "newtailue"], .ofText
    "51c 17 5 p 7 a 4 1"⟩,
   ⟨["taml", "tamil"], .ofText
    "29u 1 2 5 4 2 2 3 4 1 2 0 2 1 4 1 4 2 4 b 5 4 4 2 2 3 3 0 7 0 f k 1ih2 1d e 0"⟩,
   ⟨["tang", "tangut"], .ofText
    "20o0 0 w 4qf 9 lb e9 8"⟩,
   ⟨["tavt", "taiviet"], .ofText
    "xog 1u p 4"⟩,
   ⟨["telu", "telugu"], .ofText
    "2dc c 2 2 2 m 2 f 3 8 2 2 2 3 8 1 2 2 3 0 3 3 3 9 8 8"⟩,
   ⟨["tfng", "tifinagh"], .ofText
    "8xc 1j 8 1 f 0"⟩,
   ⟨["tglg", "tagalog"], .ofText
    "4jk l a 0"⟩,
   ⟨["thaa", "thaana"], .ofText
    "1hc 1d"⟩,
   ⟨["thai"], .ofText
    "2rl 1l 6 r"⟩,
   ⟨["tibt", "tibetan"], .ofText
    "2yo 1z 2 z 5 12 2 z 2 e 2 6 5 1"⟩,
   ⟨["tirh", "tirhuta"], .ofText
    "1im8 1z 9 9"⟩,
   ⟨["tnsa", "tangsa"], .ofText
    "1zlc 26 2 9"⟩,
   ⟨["toto"], .ofText
    "2nbk u"⟩,
   ⟨["ugar", "ugaritic"], .ofText
    "1f9c t 2 0"⟩,
   ⟨["vaii", "vai"], .ofText
    "wlc 8b"⟩,
   ⟨["vith", "vithkuqi"], .ofText
    "1fn4 a 2 e 2 6 2 1 2 a 2 e 2 6 2 1"⟩,
   ⟨["wara", "warangciti"], .ofText
    "1jfk 2a d 0"⟩,
   ⟨["wcho", "wancho"], .ofText
    "2ncw 1l 6 0"⟩,
   ⟨["xpeo", "oldpersian"], .ofText
    "1fa8 z 5 d"⟩,
   ⟨["xsux", "cuneiform"], .ofText
    "1kw0 pl 2v 32 2 4 c 5f"⟩,
   ⟨["yezi", "yezidi"], .ofText
    "1hfk 15 2 2 3 1"⟩,
   ⟨["yiii", "yi"], .ofText
    "vls wc 4 1i"⟩,
   ⟨["zanb", "zanabazarsquare"], .ofText
    "1jpc 1z"⟩,
   ⟨["zinh", "inherited", "qaai"], .ofText
    "lc 33 7q 1 cl a r 0 kh 3 3fg u ea 2 2 c 2 6 5 0 7 0 4 1 5j 1r el 1 5f w 30a 3 30 1 14km f h
    d r4 0 6b 0 38b 0 1139 19 3 m f5 2 i 7 3 6 v 3 h45v 6n"⟩,
   ⟨["zyyy", "common"], .ofText
    "0 1s r 5 r 1a 2 e 2 4 o 0 w 0 ci 12 6 4 3 j 39 0 a 0 7 0 2 0 hq 0 7 0 f 0 4 0 x 0 4d 0 ed 0
    3m 1 yi 0 ba 3 83 0 168 2 20 1 5o 1 2 0 y6 0 e 0 8 3 2 5 2 2 3 0 li b 3 2e 2 a 4 a 2 e i w
    1s 11 2 2 3 5 2 q 2 g 16 2 5 ih n a m pr 75 hf 3 v 2 2w e9 2l b7 k 2 0 2 o g 7 5 3 2k 1 4 0
    2j 1 44 f x 11 a 0 1d 1r w 28 1c 0 2h 4n 535 1r hkx x 2v 2 4m 9 6t 0 4h 0 b0 0 f 1 g5v 1 5t
    9 n y 2 i 2 3 44 0 2 v r 5 r a b 0 1a 1 1t 6 2 6 b 4 77 2 5 18 4 8 29 c 1g 18 6d q 10o5 3
    319 6x 7 c3 4d 37 1p 6t b 12 3 1p 4 g 9 1 8 t 5 1o 5y j d j d 2e a o 3s 2c 2 1y 2 1 3 0 3 1
    3 3 2 b 2 0 2 6 2 1s 2 3 3 7 2 6 2 r 2 3 2 4 2 0 4 6 2 9f 3 83 3 1d 41e 1v 25 1o jn 17 5 2r
    d e 3 e 2 e 2 10 b 4t 1l p 2 1 e 17 5 8 8 1 f 5 4b rb 5 g 4 c 4 3a 5 2m 7 b 5 0 g b 5 1j 9 9
    7 13 9 t 3 b 5 1 1r 9f d d 3 c 4 9 6 1j 8 e 3 a 7 8 8 42 2 2t gvm0 0 v 2n"⟩,
   ⟨["gara", "garay"], .ofText
    "1h6o 11 4 s 9 1"⟩,
   ⟨["gukh", "gurungkhema"], .ofText
    "1xq8 1l"⟩,
   ⟨["krai", "kiratrai"], .ofText
    "205c 1l"⟩,
   ⟨["onao", "olonal"], .ofText
    "2nyo 16 5 0"⟩,
   ⟨["sunu", "sunuwar"], .ofText
    "1k1s x f 9"⟩,
   ⟨["todr", "todhri"], .ofText
    "1fpc 1f"⟩,
   ⟨["tutg", "tulutigalari"], .ofText
    "1if4 9 2 0 3 0 2 11 2 9 2 0 3 0 2 3 2 9 2 1 9 1"⟩]

/-- The characters that are used with a script. -/
def scriptExtensions : List NamedSet :=
  [⟨["adlm", "adlam"], .ofText
    "17j 0 x 0 55b 0 2r6 0 2fgf 23 5 9 5 1"⟩,
   ⟨["aghb", "caucasianalbanian"], .ofText
    "lg 0 19 0 19 0 1exe 1f c 0"⟩,
   ⟨["ahom"], .ofText
    "1j40 q 3 e 5 m"⟩,
   ⟨["arab", "arabic"], .ofText
    "16o 4 2 5y 2 x 29 1b 6p u 2 1 6 22 2 s 4ls 0 2r6 0 14i7 36 h cc 3 1h 8 0 x f 35 4 2 3q ro r
    291 u 1w 2 1k 3 181t 3 2 q 2 1 2 0 3 0 2 9 2 3 2 0 2 0 7 0 5 0 2 0 2 0 2 2 2 1 2 0 3 0 2 0 2
    0 2 0 2 0 2 1 2 0 3 3 2 6 2 3 2 3 2 0 2 9 2 g 6 2 2 4 2 g 1h 1"⟩,
   ⟨["armi", "imperialaramaic"], .ofText
    "1g74 l 2 8"⟩,
   ⟨["armn", "armenian"], .ofText
    "lk 0 fd 11 3 1d 3 2 1chw 4"⟩,
   ⟨["avst", "avestan"], .ofText
    "53 0 8zd 1 17m7 1h 4 6"⟩,
   ⟨["bali", "balinese"], .ofText
    "5c0 24 2 1d"⟩,
   ⟨["bamu", "bamum"], .ofText
    "www 2f 124p fs"⟩,
   ⟨["bass", "bassavah"], .ofText
    "1zo0 t 3 5"⟩,
   ⟨["batk", "batak"], .ofText
    "5hc 1f 9 3"⟩,
   ⟨["beng", "bengali"], .ofText
    "jg 0 1at 1 i 1 r 3 2 7 3 1 3 l 2 6 2 0 4 3 3 8 3 1 3 3 9 0 5 1 2 4 3 o 3pu 0 2 0 3 1 2 0 9 0
    9 0 3 0 5 0 3 2 rne 0"⟩,
   ⟨["bhks", "bhaiksuki"], .ofText
    "1k3k 8 2 18 2 d b s"⟩,
   ⟨["bopo", "bopomofo"], .ofText
    "jr 0 2 2 e 0 h 1 8wm 2 5 9 2 c b 3 3 0 7 0 5g 0 a 16 35 v 14ee 1 7v 4"⟩,
   ⟨["brah", "brahmi"], .ofText
    "1hq8 25 5 z a 0"⟩,
   ⟨["brai", "braille"], .ofText
    "7wg 73"⟩,
   ⟨["bugi", "buginese"], .ofText
    "54w r 3 1 sds 0"⟩,
   ⟨["buhd", "buhid"], .ofText
    "4l1 1 a j"⟩,
   ⟨["cakm", "chakma"], .ofText
    "1ye 9 18x 9 1epj 1g 2 h"⟩,
   ⟨["cans", "canadianaboriginal"], .ofText
    "3y8 hr fl 1x 1ewr f"⟩,
   ⟨["cari", "carian"], .ofText
    "53 0 68z 0 3 0 2qc 0 15yn 1c"⟩,
   ⟨["cham"], .ofText
    "xkw 1i a d 3 9 3 3"⟩,
   ⟨["cher", "cherokee"], .ofText
    "lc 2 2 0 7 1 n 1 c 1 38v 2d 3 5 twz 27"⟩,
   ⟨["chrs", "chorasmian"], .ofText
    "1ho0 r"⟩,
   ⟨["copt", "coptic", "qaac"], .ofText
    "53 0 g9 0 4 1 2 0 31 1 31 d 80h 37 6 6 7s 0 1615 r"⟩,
   ⟨["cpmn", "cyprominoan"], .ofText
    "1erk 1 973 2q"⟩,
   ⟨["cprt", "cypriot"], .ofText
    "1erk 2 5 18 4 8 1c1 5 3 0 2 17 2 1 4 0 3 0"⟩,
   ⟨["cyrl", "cyrillic"], .ofText
    "jg 0 1w 2 2 0 2 0 2 0 3 0 6 0 6n 8f 4lt a 4h 0 25 0 3k 0 354 v 1w 0 np9 2n han 1 18n5 1p y 0"⟩,
   ⟨["deva", "devanagari"], .ofText
    "jg 0 18k 2a 3 16 3td 12 2 1 s7 0 qps 9 4n v mip 9"⟩,
   ⟨["diak", "divesakuru"], .ofText
    "1ji8 6 3 0 3 7 2 1 2 t 2 1 3 b a 9"⟩,
   ⟨["dogr", "dogra"], .ofText
    "1us b vcx 9 m2v 1n"⟩,
   ⟨["dsrt", "deseret"], .ofText
    "1fcw 27"⟩,
   ⟨["dupl", "duployan"], .ofText
    "53 0 gg 1 2 0 p 1 8ig 0 26kk 2y 6 c 4 8 8 9 3 7"⟩,
   ⟨["egyp", "egyptianhieroglyphs"], .ofText
    "1o1s ut b 32y"⟩,
   ⟨["elba", "elbasan"], .ofText
    "53 0 ge 0 1eyj 13"⟩,
   ⟨["elym", "elymaic"], .ofText
    "1hpc m"⟩,
   ⟨["ethi", "ethiopic"], .ofText
    "lq 0 2ya 20 2 3 3 6 2 0 2 3 3 14 2 3 3 w 2 3 3 6 2 0 2 3 3 e 2 1k 2 3 3 1u 3 v 4 p 547 m a 6
    2 6 2 6 2 6 2 6 2 6 2 6 2 6 opv 5 3 5 3 5 a 6 2 6 1qk2 6 2 3 2 1 2 e"⟩,
   ⟨["geor", "georgian"], .ofText
    "53 0 ya 0 26v 11 2 0 6 0 3 1b 2a9 16 3 2 pn 0 2hy 11 2 0 6 0 78 0"⟩,
   ⟨["glag", "glagolitic"], .ofText
    "53 0 gc 0 2 0 an 0 3 0 76 0 29e 0 31b 0 2au 2n dg 0 nqk 0 1pxt 6 2 g 3 6 2 1 2 4"⟩,
   ⟨["gong", "gunjalagondi"], .ofText
    "53 0 1pp 1 1iij 5 2 1 2 10 2 1 2 5 8 9"⟩,
   ⟨["gonm", "masaramgondi"], .ofText
    "1us 1 1ifv 6 2 1 2 17 4 0 2 1 2 8 9 9"⟩,
   ⟨["goth", "gothic"], .ofText
    "53 0 gd 1 3 0 15 0 1ekf q"⟩,
   ⟨["gran", "grantha"], .ofText
    "1u9 1 i 1 ht d 3bx 0 2 1 v 2 4 1 s7 0 1btc 3 2 7 3 1 3 l 2 6 2 1 2 4 2 9 3 1 3 2 3 0 7 0 6 6
    3 6 4 4 2fw 1 2 0"⟩,
   ⟨["grek", "greek"], .ofText
    "53 0 g9 1 3 0 2 0 2 0 b 0 1b 0 3 0 17 7 3 3 2 0 5 0 2 0 2 2 2 0 2 j 2 1q f f 4yv 4 1f 4 5 4
    2d 2 8v l 3 5 3 11 3 5 3 7 2 0 2 0 2 0 2 u 3 1g 2 e 2 d 3 5 2 i 3 2 2 8 2n 0 5l 0 rb3 0 gyj
    26 i 0 155s 1x"⟩,
   ⟨["gujr", "gujarati"], .ofText
    "1u9 1 i 1 7w 2 2 8 2 2 2 l 2 6 2 1 2 4 3 9 2 2 2 2 3 0 g 3 3 b 8 6 v1t 9"⟩,
   ⟨["guru", "gurmukhi"], .ofText
    "1u9 1 i 1 4c 2 2 5 5 1 3 l 2 6 2 1 2 1 2 1 3 0 2 4 5 1 3 2 4 0 8 3 2 0 8 g v5m 9"⟩,
   ⟨["hang", "hangul"], .ofText
    "3cw 73 5xe 2 5 9 2 c f 2 7 0 5g 0 1i 2l 36 u 1u u nhe s hw 8mb d m 5 1c 7ka 1 7v 4 1n u 4 5
    3 5 3 5 3 2"⟩,
   ⟨["hani", "han"], .ofText
    "53 0 91l p 2 2g d 5x r f 2 2 2 c 2 c 2 c 3 0 7 8 58 0 45 f x 11 a 0 1d 13 1l 1c g b 1g 0 2h
    o b 4 2p u 2 533 1t g73 1dt 7 g6x a5 3 2x oc 1 7v 4 m7x 1 d 1 jn3 h 63j 1 2pb wyn x 37d 7 65
    3 4g1 f 5rk g h9 1wj f1 15v 3t6 6 38f"⟩,
   ⟨["hano", "hanunoo"], .ofText
    "4kg m"⟩,
   ⟨["hatr", "hatran"], .ofText
    "1gbk i 2 1 6 4"⟩,
   ⟨["hebr", "hebrew"], .ofText
    "lj 1 i1 1i 9 q 5 5 1cfd p 2 4 2 0 2 1 2 1 2 9"⟩,
   ⟨["hira", "hiragana"], .ofText
    "9hd 2 5 9 2 c h 5 2 0 5 1 4 2d 3 7 2j 1 14jt 1 7v 4 b 0 1a 1 yua 7y j 0 u 2 cry 0"⟩,
   ⟨["hluw", "anatolianhieroglyphs"], .ofText
    "1s00 g6"⟩,
   ⟨["hmng", "pahawhhmong"], .ofText
    "1zpc 1x b 9 2 6 2 k 6 i"⟩,
   ⟨["hmnp", "nyiakengpuachuehmong"], .ofText
    "2n0g 18 4 d 3 9 5 1"⟩,
   ⟨["hung", "oldhungarian"], .ofText
    "6e2 0 3 0 2qc 0 g 0 17wf 1e e 1e 8 5"⟩,
   ⟨["ital", "olditalic"], .ofText
    "1f5s z a 2"⟩,
   ⟨["java", "javanese"], .ofText
    "xhc 25 2 a 5 1"⟩,
   ⟨["kali", "kayahli"], .ofText
    "xds 1b"⟩,
   ⟨["kana", "katakana"], .ofText
    "lh 0 u 0 8v2 2 5 9 2 c h 5 2 0 5 1 2k 3 4 2n 6p f 5t 1a 2 2f 1432 1 7v 1q ytt 3 2 6 2 1 2 0
    80 2 1f 0 f 3"⟩,
   ⟨["kawi"], .ofText
    "1kow g 2 14 4 s"⟩,
   ⟨["khar", "kharoshthi"], .ofText
    "1gjk 3 2 1 6 7 2 2 2 s 3 2 5 9 8 8"⟩,
   ⟨["khmr", "khmer"], .ofText
    "4n4 2l 3 9 7 9 dj v"⟩,
   ⟨["khoj", "khojki"], .ofText
    "25i 9 v29 9 kw7 h 2 1a"⟩,
   ⟨["kits", "khitansmallscript"], .ofText
    "20o4 0 5cs d1 16 0"⟩,
   ⟨["knda", "kannada"], .ofText
    "1u9 1 i 1 m3 c 2 2 2 m 2 9 2 4 3 8 2 2 2 3 8 1 7 1 2 3 3 9 2 2 34t 0 2 1 7 0 o 0 2 0 ri4 5"⟩,
   ⟨["kthi", "kaithi"], .ofText
    "1uu 9 79e 0 o3j 9 klj 1u b 0"⟩,
   ⟨["lana", "taitham"], .ofText
    "55s 1q 2 s 3 a 7 9 7 d"⟩,
   ⟨["laoo", "lao"], .ofText
    "2v5 1 2 0 2 4 2 n 2 0 2 m 3 4 2 0 2 6 2 9 3 3"⟩,
   ⟨["latn", "latin"], .ofText
    "1t p 7 p 1c 0 d 0 3 0 6 m 2 u 2 cg 4 0 b 0 2 2 2 0 a 0 2 0 7 4 s e 2 1 2 0 d 0 3 2 8 1 2 1
    13 0 6 0 5 c 7q 1 y3 1 1ih 0 2dh 11 7 1c 6 3 6 c 2 1x 1m 0 8 73 8g 0 1u 0 e 0 h c 2c 0 1m 1
    7 0 s 0 i 14 254 v bc 0 nvt 7 r 2t 4 1u 3 1 2 0 2 7 m d 8f 0 ea 16 2 8 2 3 fpz 6 t7 p 7 p
    1ly 5 2 15 2 8 16iu u 7 5"⟩,
   ⟨["lepc", "lepcha"], .ofText
    "5j4 1j 4 e 4 2"⟩,
   ⟨["limb", "limbu"], .ofText
    "1ut 0 32z u 2 b 5 b 5 0 4 b"⟩,
   ⟨["lina", "lineara"], .ofText
    "1err 18 y5 8m a l b 7"⟩,
   ⟨["linb", "linearb"], .ofText
    "1ekg b 2 p 2 i 2 1 2 e 3 d z 3e 6 2 5 18 4 8"⟩,
   ⟨["lisu"], .ofText
    "jg 0 h 0 8xp 1 n2d 1b o8h 0"⟩,
   ⟨["lyci", "lycian"], .ofText
    "6e2 0 18o6 s"⟩,
   ⟨["lydi", "lydian"], .ofText
    "53 0 8ze 0 178v p 6 0"⟩,
   ⟨["mahj", "mahajani"], .ofText
    "53 0 1pp b vcx 9 krb 12"⟩,
   ⟨["maka", "makasar"], .ofText
    "1ko0 o"⟩,
   ⟨["mand", "mandaic"], .ofText
    "18g 0 e8 r 3 0"⟩,
   ⟨["mani", "manichaean"], .ofText
    "18g 0 1fgg 12 5 b"⟩,
   ⟨["marc", "marchen"], .ofText
    "1k6o v 3 l 2 d"⟩,
   ⟨["medf", "medefaidrin"], .ofText
    "20cg 2i"⟩,
   ⟨["mend", "mendekikakui"], .ofText
    "2oe8 5g 3 f"⟩,
   ⟨["merc", "meroiticcursive"], .ofText
    "1ggw n 5 j 3 19"⟩,
   ⟨["mero", "meroitichieroglyphs"], .ofText
    "6e5 0 1a1v v"⟩,
   ⟨["mlym", "malayalam"], .ofText
    "1u9 1 i 1 pn c 2 2 2 1e 2 2 2 5 5 f 3 p 317 0 o 0 ri6 2"⟩,
   ⟨["modi"], .ofText
    "x80 9 lon 1w c 9"⟩,
   ⟨["mong", "mongolian"], .ofText
    "4qo p 7 2g 8 16 1hh 0 34i 1 6 3 19hx c"⟩,
   ⟨["mroo", "mro"], .ofText
    "1zk0 u 2 9 5 1"⟩,
   ⟨["mtei", "meeteimayek"], .ofText
    "xr4 m 5m 19 3 9"⟩,
   ⟨["mult", "multani"], .ofText
    "21y 9 1g5t 6 2 0 2 3 2 e 2 a"⟩,
   ⟨["mymr", "myanmar"], .ofText
    "35s 4f u4v 0 4y u 2q v le9 j"⟩,
   ⟨["nagm", "nagmundari"], .ofText
    "2nrk 15"⟩,
   ⟨["nand", "nandinagari"], .ofText
    "1us 1 ox 9 35m 0 9 0 8 0 rhy 5 mej 7 3 19 3 a"⟩,
   ⟨["narb", "oldnortharabian"], .ofText
    "1gn4 v"⟩,
   ⟨["nbat", "nabataean"], .ofText
    "1g8w u 9 8"⟩,
   ⟨["newa"], .ofText
    "1iio 2j 2 4"⟩,
   ⟨["nkoo", "nko"], .ofText
    "170 0 f 0 4 0 bl 1m 3 2 1cfz 1"⟩,
   ⟨["nshu", "nushu"], .ofText
    "20o1 0 cy7 az"⟩,
   ⟨["ogam", "ogham"], .ofText
    "4g0 s"⟩,
   ⟨["olck", "olchiki"], .ofText
    "5lc 1b"⟩,
   ⟨["orkh", "oldturkic"], .ofText
    "6e2 0 2qe 0 17tc 20"⟩,
   ⟨["orya", "oriya"], .ofText
    "1u9 1 i 1 bg 2 2 7 3 1 3 l 2 6 2 1 2 4 3 8 3 1 3 2 8 2 5 1 2 4 3 h 3fn 0 o 0"⟩,
   ⟨["osge", "osage"], .ofText
    "ld 0 3 0 7 0 25 0 1eu0 z 5 z"⟩,
   ⟨["osma", "osmanya"], .ofText
    "1fgg t 3 9"⟩,
   ⟨["ougr", "olduyghur"], .ofText
    "18g 0 1fhu 0 vy p"⟩,
   ⟨["palm", "palmyrene"], .ofText
    "1g80 v"⟩,
   ⟨["pauc", "paucinhau"], .ofText
    "1juo 1k"⟩,
   ⟨["perm", "oldpermic"], .ofText
    "53 0 g9 0 6 2 b 0 a8 0 1ebx 16"⟩,
   ⟨["phag", "phagspa"], .ofText
    "4qq 1 2 0 1m2 0 34j 0 nr2 1j"⟩,
   ⟨["phli", "inscriptionalpahlavi"], .ofText
    "1gtc i 6 7"⟩,
   ⟨["phlp", "psalterpahlavi"], .ofText
    "18g 0 1fls h 8 3 d 6"⟩,
   ⟨["phnx", "phoenician"], .ofText
    "1gcg r 4 0"⟩,
   ⟨["plrd", "miao"], .ofText
    "20hs 22 5 1k 8 g"⟩,
   ⟨["prti", "inscriptionalparthian"], .ofText
    "1gsg l 3 7"⟩,
   ⟨["rjng", "rejang"], .ofText
    "xf4 z c 0"⟩,
   ⟨["rohg", "hanifirohingya"], .ofText
    "170 0 f 0 4 0 x 0 44 0 1fsc 13 9 9"⟩,
   ⟨["runr", "runic"], .ofText
    "4gw 2g"⟩,
   ⟨["samr", "samaritan"], .ofText
    "1kw 19 3 e 7hv 0"⟩,
   ⟨["sarb", "oldsoutharabian"], .ofText
    "1gm8 v"⟩,
   ⟨["saur", "saurashtra"], .ofText
    "xa8 1x 9 b"⟩,
   ⟨["sgnw", "signwriting"], .ofText
    "2l8g i3 g 4 2 e"⟩,
   ⟨["shaw", "shavian"], .ofText
    "53 0 1fa1 1b"⟩,
   ⟨["shrd", "sharada"], .ofText
    "1u9 0 3uu 0 2 0 3 1 3 0 rio 5 3 0 kso 2n"⟩,
   ⟨["sidd", "siddham"], .ofText
    "1itc 1h 3 11"⟩,
   ⟨["sind", "khudawadi"], .ofText
    "1us 1 vd7 9 l13 1m 6 9"⟩,
   ⟨["sinh", "sinhala"], .ofText
    "1us 1 t8 2 2 h 4 n 2 8 2 0 3 6 4 0 5 5 2 0 2 7 7 9 3 2 2ym 0 1cdr j"⟩,
   ⟨["sogd", "sogdian"], .ofText
    "18g 0 1gc0 15"⟩,
   ⟨["sogo", "oldsogdian"], .ofText
    "1hj4 13"⟩,
   ⟨["sora", "sorasompeng"], .ofText
    "1hw0 o 8 9"⟩,
   ⟨["soyo", "soyombo"], .ofText
    "1jrk 2a"⟩,
   ⟨["sund", "sundanese"], .ofText
    "5fk 1r 75 7"⟩,
   ⟨["sylo", "sylotinagri"], .ofText
    "1us 1 3l 9 v81 18"⟩,
   ⟨["syrc", "syriac"], .ofText
    "lf 1 3 1 2 0 m 0 3 2 8 1 2 0 kc 0 f 1 3 0 x 0 b a r 0 40 d 2 1n 3 2 7l a 49a 0 2 0"⟩,
   ⟨["tagb", "tagbanwa"], .ofText
    "4l1 1 16 c 2 2 2 1"⟩,
   ⟨["takr", "takri"], .ofText
    "1us 1 vd7 9 ls7 1l 7 9"⟩,
   ⟨["tale", "taile"], .ofText
    "lc 1 6 1 4 0 2lw 9 1s7 t 3 4"⟩,
   ⟨["talu", "newtailue"], .ofText
    "51c 17 5 p 7 a 4 1"⟩,
   ⟨["taml", "tamil"], .ofText
    "1u9 1 i 1 f1 1 2 5 4 2 2 3 4 1 2 0 2 1 4 1 4 2 4 b 5 4 4 2 2 3 3 0 7 0 f k 3c0 0 ro9 0 ky6 0
    2 0 1k 1 2h0 1d e 0"⟩,
   ⟨["tang", "tangut"], .ofText
    "9gw f ds 0 1qsx 0 w 4qf 9 lb e9 8"⟩,
   ⟨["tavt", "taiviet"], .ofText
    "xog 1u p 4"⟩,
   ⟨["telu", "telugu"], .ofText
    "1u9 1 i 1 ij c 2 2 2 m 2 f 3 8 2 2 2 3 8 1 2 2 3 0 3 3 3 9 8 8 38b 0 o 0"⟩,
   ⟨["tfng", "tifinagh"], .ofText
    "le 0 2 0 3 0 2 0 8br 1j 8 1 f 0"⟩,
   ⟨["tglg", "tagalog"], .ofText
    "4jk l a 0 m 1"⟩,
   ⟨["thaa", "thaana"], .ofText
    "170 0 f 1 3 0 1t 9 7r 1d 1cn5 0 b 0"⟩,
   ⟨["thai"], .ofText
    "jg 0 r 0 18 0 1a 0 24w 1l 6 r"⟩,
   ⟨["tibt", "tibetan"], .ofText
    "2yo 1z 2 z 5 12 2 z 2 e 2 6 5 1 6cu 3"⟩,
   ⟨["tirh", "tirhuta"], .ofText
    "1u9 1 i 1 3v1 0 ri6 9 ldz 1z 9 9"⟩,
   ⟨["tnsa", "tangsa"], .ofText
    "1zlc 26 2 9"⟩,
   ⟨["toto"], .ofText
    "jg 0 2ms4 u"⟩,
   ⟨["ugar", "ugaritic"], .ofText
    "1f9c t 2 0"⟩,
   ⟨["vaii", "vai"], .ofText
    "wlc 8b"⟩,
   ⟨["vith", "vithkuqi"], .ofText
    "1fn4 a 2 e 2 6 2 1 2 a 2 e 2 6 2 1"⟩,
   ⟨["wara", "warangciti"], .ofText
    "1jfk 2a d 0"⟩,
   ⟨["wcho", "wancho"], .ofText
    "2ncw 1l 6 0"⟩,
   ⟨["xpeo", "oldpersian"], .ofText
    "1fa8 z 5 d"⟩,
   ⟨["xsux", "cuneiform"], .ofText
    "1kw0 pl 2v 32 2 4 c 5f"⟩,
   ⟨["yezi", "yezidi"], .ofText
    "170 0 f 0 4 0 1t 9 1g5z 15 2 2 3 1"⟩,
   ⟨["yiii", "yi"], .ofText
    "9hd 1 6 9 3 7 68 0 lxh wc 4 1i hwb 4"⟩,
   ⟨["zanb", "zanabazarsquare"], .ofText
    "1jpc 1z"⟩,
   ⟨["zinh", "inherited", "qaai"], .ofText
    "lr 0 3 0 2 b 2 1 4 6 3 0 3 f 2 1 2 h 2 4 2 3 169 1 3fg u l0 1h 2 0 2 4 el 1 5f v 17o1 f h d
    r4 0 14hv 19 3 m f5 2 i 7 3 6 v 3 h45v 6n"⟩,
   ⟨["zyyy", "common"], .ofText
    "0 1s r 5 r 1a 2 b 2 1 2 4 o 0 w 0 ci 2 2 9 2 0 4 0 2 8 2 0 2 5 6 4 3 j 3j 0 7 0 2 0 hq 0 60
    0 ed 0 125 0 ba 3 36w b 3 w 2 u 2 9 2 1 2 6 2 a 4 a 2 e i w 1s 11 2 2 3 5 2 q 2 g 16 2 5 ih
    n a m pr 75 hf 3 v 2 2w e9 m 2 n 3 9 2 3 2 0 2 p bn 0 4 0 e 0 e 0 m 0 eq n w 0 1e e d 3 4i 9
    6 2n w 0 535 1r hl5 p 2v 2 r5 0 f 1 gbp 9 n k 3 b 2 i 2 3 44 0 2 v r 5 r 5 3k 6 2 6 b 4 b7 c
    1g 18 13wk 6x 7 c3 4d 37 1p 6t b 12 3 1p 4 g 9 1 8 t 5 1o 5y j d j d 2e s 6 3s 2c 2 1y 2 1 3
    0 3 1 3 3 2 b 2 0 2 6 2 1s 2 3 3 7 2 6 2 r 2 3 2 4 2 0 4 6 2 9f 3 83 3 1d 41e 1v 25 1o jn 17
    5 2r d e 3 e 2 e 2 10 b 4t 1l p 2 1 e 17 5 8 o 5 4b rb 5 g 4 c 4 3a 5 2m 7 b 5 0 g b 5 1j 9
    9 7 13 9 t 3 b 5 1 1r 9f d d 3 c 4 9 6 1j 8 e 3 a 7 8 8 42 2 2t gvm0 0 v 2n"⟩,
   ⟨["gara", "garay"], .ofText
    "170 0 f 0 4 0 1fz5 11 4 s 9 1"⟩,
   ⟨["gukh", "gurungkhema"], .ofText
    "1ut 0 1vvf 1l"⟩,
   ⟨["krai", "kiratrai"], .ofText
    "205c 1l"⟩,
   ⟨["onao", "olonal"], .ofText
    "1us 1 2m3v 16 5 0"⟩,
   ⟨["sunu", "sunuwar"], .ofText
    "lc 1 2 0 a 0 3 0 t 0 4 0 1jf3 x f 9"⟩,
   ⟨["todr", "todhri"], .ofText
    "ld 0 3 0 3 0 a 0 2 0 23 0 1f1e 1f"⟩,
   ⟨["tutg", "tulutigalari"], .ofText
    "2jq 9 35v 0 2 0 ri4 5 58 0 l1r 9 2 0 3 0 2 11 2 9 2 0 3 0 2 3 2 9 2 1 9 1"⟩]

end Logbook.Pattern
