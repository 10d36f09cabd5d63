/-!
# Scripts

The scripts that characters belong to. Some characters are used in several scripts; what a script has in that wider
sense is given by where it differs from the script itself. Sets are written as the general categories are.
-/

namespace GateRunner.Pattern

/-- A script: its name, its short names, its characters, and those that are in it in only one of the two senses. -/
structure Script where
  name : String
  short : String
  members : String
  differing : String

/-- The scripts by name. -/
def scripts : List Script :=
  [⟨"Adlam", "Adlm", "1E900:4B 4:9 4:1", "61F 20 1A0E DF1"⟩,
    ⟨"Ahom", "Ahom", "11700:1A 2:E 4:16", ""⟩,
    ⟨"Anatolian_Hieroglyphs", "Hluw", "14400:246", ""⟩,
    ⟨"Arabic", "Arab",
      "600:4 1:5 1:D 1:2 1:1F 1:9 B:19 1:6B 1:21 50:2F F0:1E 1:1 5:4A 1:1C F250:72 10:16A 2:4F 2:35 7 20:F 70:4
       1:86 F63:1E 43:2 37:3 DF00:3 1:1A 1:1 1 2 1:9 1:3 1 1 6 4 1 1 1:2 1:1 1 2 1 1 1 1 1:1 1 2:3 1:6 1:3 1:3 1
       1:9 1:10 5:2 1:4 1:10 34:1",
      "60C E 3 20 A:A 1A 19DE DF1 CEFC:1 5A0:1B"⟩,
    ⟨"Armenian", "Armn", "531:25 2:31 2:2 F583:4", "308"⟩,
    ⟨"Avestan", "Avst", "10B00:35 3:6", "B7 2D78:1"⟩,
    ⟨"Balinese", "Bali", "1B00:4C 1:31", ""⟩,
    ⟨"Bamum", "Bamu", "A6A0:57 C108:238", ""⟩,
    ⟨"Bassa_Vah", "Bass", "16AD0:1D 2:5", ""⟩,
    ⟨"Batak", "Batk", "1BC0:33 8:3", ""⟩,
    ⟨"Bengali", "Beng",
      "980:3 1:7 2:1 2:15 1:6 1 3:3 2:8 2:1 2:3 8 4:1 1:4 2:18",
      "2BC 694:1 11:1 136A 1 2:1 1 8 8 2 4 2:2 8BF9"⟩,
    ⟨"Bhaiksuki", "Bhks", "11C00:8 1:2C 1:D A:1C", ""⟩,
    ⟨"Bopomofo", "Bopo", "2EA:1 2E19:2A 70:1F", "2C7 1:2 D 2D27:2 4:9 1:C A:3 2 6 C3 CD49:1 11A:4"⟩,
    ⟨"Brahmi", "Brah", "11000:4D 4:23 9", ""⟩,
    ⟨"Braille", "Brai", "2800:FF", ""⟩,
    ⟨"Buginese", "Bugi", "1A00:1B 2:1", "A9CF"⟩,
    ⟨"Buhid", "Buhd", "1740:13", "1735:1"⟩,
    ⟨"Canadian_Aboriginal", "Cans", "1400:27F 230:45 101BA:F", ""⟩,
    ⟨"Carian", "Cari", "102A0:30", "B7 1FA2 2 DD3"⟩,
    ⟨"Caucasian_Albanian", "Aghb", "10530:33 B", "304 2C 2C"⟩,
    ⟨"Chakma", "Cakm", "11100:34 1:11", "9E6:9 650:9"⟩,
    ⟨"Cham", "Cham", "AA00:36 9:D 2:9 2:3", ""⟩,
    ⟨"Cherokee", "Cher", "13A0:55 2:5 9772:4F", "300:2 1 6:1 16:1 B:1"⟩,
    ⟨"Chorasmian", "Chrs", "10FB0:1B", ""⟩,
    ⟨"Common", "Zyyy",
      "0:40 1A:5 1A:2E 1:E 1:4 17 1F 1C1:26 5:4 2:13 74 9 6 1 27D 6 E 3 20 9C 204 81:1 4D9 195:3 122 5EF:2 47:1
       CB:1 1 4CD D 7:3 1:5 1:2 2 305:B 2:56 1:A 3:A 1:E 11:20 3F:25 1:2 2:5 1:1A 1:10 29:2 4:299 16:A 15:39F
       100:273 2:1F 1:68 200:5D 192:14 1 1:18 F:7 4:3 5B:1 3 5A:1 93:F 20:25 9 30:3F 1F:50 2F 58:A7 19C0:3F
       5900:21 66:2 A5:9 F4 A0 18B E:1 51D2:1 D0:9 16:22 1:12 1:3 93 1:1F 1A:5 1A:A A 2D:1 40:6 1:6 A:4 102:2
       4:2C 3:8 50:C 33:2C E4:1A B9A4:3 F5C:F9 6:1B3 9C:73 3C:F5 A:26 2:3D 3:10 8:1 7:1D 4:3C D5:13 C:13 C:56
       9:18 87:54 1:46 1:1 2 2:1 2:3 1:B 1 1:6 1:40 1:3 2:7 1:6 1:1B 1:3 1:4 1 3:6 1:153 2:123 2:31 1471:43 4C:3C
       2C2:2B 4:63 C:E 2:E 1:E 1:24 A:AD 38:19 1:1 D:2B 4:8 7:1 E:5 9A:3D7 4:10 3:C 3:76 4:5E 6:B 4 F:B 4:37 8:9
       6:27 8:1D 2:B 4:1 3E:153 C:D 2:C 3:9 5:37 7:E 2:A 6:8 7:92 1:65 C0407 1E:5F",
      "B7 204 A 1:2 1 9 1 9A 297 E 3 20 323:1 795 5EF:2 47:1 CB:1 1 4CD D 7:3 1:5 1:2 2 334 1F A 2 DB9 18:1 A 4 1
       1AC:F 1:2 2 1:9 1:C 10:5 1 4:3 5B:1 3 5A:1 93:F 20:25 9 30:27 38:30 F:B 33 58:18 A:4 60:1E 7301:7 128:9 F4
       A0 536E:1 105:1 11A:4 A 2D:1 160:2 4:2C 3:8 1A1:1A B9A4:3 16BC:11 1EDE:1"⟩,
    ⟨"Coptic", "Copt Qaac", "3E2:D 2890:73 5:6", "B7 248 3:1 1 6C:1 2AA1 D4C8:1B"⟩,
    ⟨"Cuneiform", "Xsux", "12000:399 66:6E 1:4 B:C3", ""⟩,
    ⟨"Cypriot", "Cprt", "10800:5 2 1:2B 1:1 3 2", "10100:2 4:2C 3:8"⟩,
    ⟨"Cypro_Minoan", "Cpmn", "12F90:62", "10100:1"⟩,
    ⟨"Cyrillic", "Cyrl",
      "400:84 2:A8 1750:A A0 4C 1067:1F 7840:5F 578E:1 E200:3D 21",
      "2BC 43:2 1 1 1 2 5 173:1 1971 104A"⟩,
    ⟨"Deseret", "Dsrt", "10400:4F", ""⟩,
    ⟨"Devanagari", "Deva", "900:50 4:E 2:19 9F60:1F 7200:9", "2BC 694:1 11:1 136A:26 1:1 3F6 873F:9"⟩,
    ⟨"Dives_Akuru", "Diak", "11900:6 2 2:7 1:1 1:1D 1:1 2:B 9:9", ""⟩,
    ⟨"Dogra", "Dogr", "11800:3B", "964:B 9EC0:9"⟩,
    ⟨"Duployan", "Dupl", "1BC00:6A 5:C 3:8 7:9 2:3", "B7 24F:1 1 18:1 2B17 18E63:3"⟩,
    ⟨"Egyptian_Hieroglyphs", "Egyp", "13000:455 A:F9A", ""⟩,
    ⟨"Elbasan", "Elba", "10500:27", "B7 24D"⟩,
    ⟨"Elymaic", "Elym", "10FE0:16", ""⟩,
    ⟨"Ethiopic", "Ethi",
      "1200:48 1:3 2:6 1 1:3 2:28 1:3 2:20 1:3 2:6 1 1:3 2:E 1:38 1:3 2:42 2:1F 3:19 19E6:16 9:6 1:6 1:6 1:6 1:6
       1:6 1:6 1:6 7D22:5 2:5 2:5 9:6 1:6 13CB1:6 1:3 1:1 1:E",
      "30E"⟩,
    ⟨"Garay", "Gara", "10D40:25 3:1C 8:1", "60C E 3"⟩,
    ⟨"Georgian", "Geor", "10A0:25 1 5 2:2A 1:3 B90:2A 2:2 1040:25 1 5", "B7 4D1 B71 F5E DD6"⟩,
    ⟨"Glagolitic", "Glag", "2C00:5F 1B3A0:6 1:10 2:6 1:1 1:4", "B7 24B 1 17E 2 101 B71 F5E DE8 782B"⟩,
    ⟨"Gothic", "Goth", "10330:1A", "B7 24C:1 2 28"⟩,
    ⟨"Grantha", "Gran",
      "11300:3 1:7 2:1 2:15 1:6 1:1 1:4 2:8 2:1 2:2 2 6 5:6 2:6 3:4",
      "951:1 11:1 280:D 10DC 1:1 1E:2 3:1 3F6 F24A C94:1 1"⟩,
    ⟨"Greek", "Grek",
      "370:3 1:2 2:3 1 4 1 1:2 1 1:13 1:3E E:F 1926:4 32:4 4:4 54 140:15 2:5 2:25 2:5 2:7 1 1 1 1:1E 2:34 1:E 1:D
       2:5 1:12 2:2 1:8 127 8A3E 55DA:4E 11 D05F:45",
      "B7 248:1 2 1 1 A 2E 2 2E 1A4B:1 29B"⟩,
    ⟨"Gujarati", "Gujr", "A81:2 1:8 1:2 1:15 1:6 1:1 1:4 2:9 1:2 1:2 2 F:3 2:B 7:6", "951:1 11:1 9ECA:9"⟩,
    ⟨"Gunjala_Gondi", "Gong", "11D60:5 1:1 1:24 1:1 1:5 7:9", "B7 8AC:1"⟩,
    ⟨"Gurmukhi", "Guru", "A01:2 1:5 4:1 2:15 1:6 1:1 1:1 1:1 2 1:4 4:1 2:2 3 7:3 1 7:10", "951:1 11:1 9ECA:9"⟩,
    ⟨"Gurung_Khema", "Gukh", "16100:39", "965"⟩,
    ⟨"Han", "Hani",
      "2E80:19 1:58 C:D5 2F 1 19:8 E:3 3C4:19BF 40:51FF 5900:16D 2:69 7508:1 C:1 900E:A6DF 20:1039 6:DD 2:1681
       E:1D30 F:26D 9A2:21D 5E2:134A 5:105F",
      "B7 2F38:F 1:2 2 1:9 1:C A:3 2 6 4:3 BB 94:F 20:25 9 30:27 38:30 F:B 33 58:18 A:4 60:1E 7301:7 573D:1 11A:4
       D3FA:11 1EDE:1"⟩,
    ⟨"Hangul", "Hang",
      "1100:FF 1E2E:1 101:5D 71:1E 41:1E 76E1:1C 283:2BA3 C:16 4:30 27A4:1E 3:5 2:5 2:5 2:2",
      "3001:2 4:9 1:C 10 6 C3 CD49:1 11A:4"⟩,
    ⟨"Hanifi_Rohingya", "Rohg", "10D00:27 8:9", "60C E 3 20 93"⟩,
    ⟨"Hanunoo", "Hano", "1720:14", "1735:1"⟩,
    ⟨"Hatran", "Hatr", "108E0:12 1:1 5:4", ""⟩,
    ⟨"Hebrew", "Hebr", "591:36 8:1A 4:5 F528:19 1:4 1 1:1 1:1 1:9", "307:1"⟩,
    ⟨"Hiragana", "Hira",
      "3041:55 6:2 17F61:11E 12 1D:2 40AD",
      "3001:2 4:9 1:C 10:5 1 4:1 5B:3 3 5A:1 CD48:1 11A:4 A 2D:1"⟩,
    ⟨"Imperial_Aramaic", "Armi", "10840:15 1:8", ""⟩,
    ⟨"Inherited", "Qaai Zinh",
      "300:6F 115:1 1C4:A 1A 2E0:3 115B:1E 201:2 1:C 1:6 4 6 3:1 C6:3F 20C:1 C2:20 F39:3 6B:1 CD65:F 10:D 3CF E2
       105A BBC4:2D 2:16 220:2 11:7 2:6 1E:3 C2F52:EF",
      "300:E 1:1 1 F:2 7:1 1:1 10 2 12 5 4:C 115:1 1C4:A 1A 2E0:1 137D:2 1:C 1:6 4 6 3:1 C6:1 36 1 2F5 F39:3 6B:1
       D245 105A"⟩,
    ⟨"Inscriptional_Pahlavi", "Phli", "10B60:12 5:7", ""⟩,
    ⟨"Inscriptional_Parthian", "Prti", "10B40:15 2:7", ""⟩,
    ⟨"Javanese", "Java", "A980:4D 2:9 4:1", "A9CF"⟩,
    ⟨"Kaithi", "Kthi", "11080:42 A", "966:9 24C1 79FE:9"⟩,
    ⟨"Kannada", "Knda",
      "C80:C 1:2 1:16 1:9 1:4 2:8 1:2 1:3 7:1 6:1 1:3 2:9 1:2",
      "951:1 11:1 136A 1:1 6 17 1 8B3B:5"⟩,
    ⟨"Katakana", "Kana",
      "30A1:59 2:2 F0:F D0:2E 1:57 CC0E:9 1:2C B052:3 1:6 1:1 1 11F:2 32 E:3",
      "305 1D 2CDD:2 4:9 1:C 10:5 1 4:1 5B:3 3 5A:1 CD48:1 11A:4 A 2D:1"⟩,
    ⟨"Kawi", "Kawi", "11F00:10 1:28 3:1C", ""⟩,
    ⟨"Kayah_Li", "Kali", "A900:2D 1", "A92E"⟩,
    ⟨"Kharoshthi", "Khar", "10A00:3 1:1 5:7 1:2 1:1C 2:2 4:9 7:8", ""⟩,
    ⟨"Khitan_Small_Script", "Kits", "16FE4 1B1B:1D5 29", ""⟩,
    ⟨"Khmer", "Khmr", "1780:5D 2:9 6:9 1E6:1F", ""⟩,
    ⟨"Khojki", "Khoj", "11200:11 1:2E", "AE6:9 9D40:9"⟩,
    ⟨"Khudawadi", "Sind", "112B0:3A 5:9", "964:1 9ECA:9"⟩,
    ⟨"Kirat_Rai", "Krai", "16D40:39", ""⟩,
    ⟨"Lao", "Laoo", "E81:1 1 1:4 1:17 1 1:16 2:4 1 1:6 1:9 2:3", ""⟩,
    ⟨"Latin", "Latn",
      "41:19 6:19 2F F 5:16 1:1E 1:1C0 27:4 1A1B:25 6:30 5:3 5:C 1:45 41:FF 171 D 10:C 8D:1 6 1B 11:28 AD7:1F
       7AA2:65 3:42 2:1 1 1:7 15:D 330:2A 1:8 1:3 4F96:6 41A:19 6:19 825:5 1:29 1:8 D745:1E 6:5",
      "B7 204 A 1:2 1 9 1 26:E 1:1 1 F:2 7:1 1:1 26 5 4:C 115:1 4CA:1 7A8 CFC 236 C0 D26 78E8:7 226"⟩,
    ⟨"Lepcha", "Lepc", "1C00:37 3:E 3:2", ""⟩,
    ⟨"Limbu", "Limb", "1900:1E 1:B 4:B 4 3:B", "965"⟩,
    ⟨"Linear_A", "Lina", "10600:136 9:15 A:7", "10107:2C"⟩,
    ⟨"Linear_B", "Linb", "10000:B 1:19 1:12 1:1 1:E 2:D 22:7A", "10100:2 4:2C 3:8"⟩,
    ⟨"Lisu", "Lisu", "A4D0:2F 7AB0", "2BC 10 2D3C:1"⟩,
    ⟨"Lycian", "Lyci", "10280:1C", "205A"⟩,
    ⟨"Lydian", "Lydi", "10920:19 5", "B7 2D79"⟩,
    ⟨"Mahajani", "Mahj", "11150:26", "B7 8AC:B 9EC0:9"⟩,
    ⟨"Makasar", "Maka", "11EE0:18", ""⟩,
    ⟨"Malayalam", "Mlym", "D00:C 1:2 1:32 1:2 1:5 4:F 2:19", "951:1 11:1 1374 17 8B3D:2"⟩,
    ⟨"Mandaic", "Mand", "840:1B 2", "640"⟩,
    ⟨"Manichaean", "Mani", "10AC0:26 4:B", "640"⟩,
    ⟨"Marchen", "Marc", "11C70:1F 2:15 1:D", ""⟩,
    ⟨"Masaram_Gondi", "Gonm", "11D00:6 1:1 1:2B 3 1:1 1:8 8:9", "964:1"⟩,
    ⟨"Medefaidrin", "Medf", "16E40:5A", ""⟩,
    ⟨"Meetei_Mayek", "Mtei", "AAE0:16 C9:2D 2:9", ""⟩,
    ⟨"Mende_Kikakui", "Mend", "1E800:C4 2:F", ""⟩,
    ⟨"Meroitic_Cursive", "Merc", "109A0:17 4:13 2:2D", ""⟩,
    ⟨"Meroitic_Hieroglyphs", "Mero", "10980:1F", "205D"⟩,
    ⟨"Miao", "Miao Plrd", "16F00:4A 4:38 7:10", ""⟩,
    ⟨"Modi", "Modi", "11600:44 B:9", "A830:9"⟩,
    ⟨"Mongolian", "Mong", "1800:1 2 1:13 6:58 7:2A FDB5:C", "1802:1 1 829 FD1:1 5:3"⟩,
    ⟨"Mro", "Mroo", "16A40:1E 1:9 4:1", ""⟩,
    ⟨"Multani", "Mult", "11280:6 1 1:3 1:E 1:A", "A66:9"⟩,
    ⟨"Myanmar", "Mymr", "1000:9F 9940:1E 61:1F 6C50:13", "A92E"⟩,
    ⟨"Nabataean", "Nbat", "10880:1E 8:8", ""⟩,
    ⟨"Nag_Mundari", "Nagm", "1E4D0:29", ""⟩,
    ⟨"Nandinagari", "Nand", "119A0:7 2:2D 2:A", "951 12:1 380:9 FF9 8 7 8B35:5"⟩,
    ⟨"New_Tai_Lue", "Talu", "1980:2B 4:19 6:A 3:1", ""⟩,
    ⟨"Newa", "Newa", "11400:5B 1:4", "951:1 1382 1:1 9 6 1 1"⟩,
    ⟨"Nko", "Nkoo", "7C0:3A 2:2", "60C E 3 F71E:1"⟩,
    ⟨"Nushu", "Nshu", "16FE1 418E:18B", ""⟩,
    ⟨"Nyiakeng_Puachue_Hmong", "Hmnp", "1E100:2C 3:D 2:9 4:1", ""⟩,
    ⟨"Ogham", "Ogam", "1680:1C", ""⟩,
    ⟨"Ol_Chiki", "Olck", "1C50:2F", ""⟩,
    ⟨"Ol_Onal", "Onao", "1E5D0:2A 4", "964:1"⟩,
    ⟨"Old_Hungarian", "Hung", "10C80:32 D:32 7:5", "205A 2 DD3 F"⟩,
    ⟨"Old_Italic", "Ital", "10300:23 9:2", ""⟩,
    ⟨"Old_North_Arabian", "Narb", "10A80:1F", ""⟩,
    ⟨"Old_Permic", "Perm", "10350:2A", "B7 248 5:2 A 16F"⟩,
    ⟨"Old_Persian", "Xpeo", "103A0:23 4:D", ""⟩,
    ⟨"Old_Sogdian", "Sogo", "10F00:27", ""⟩,
    ⟨"Old_South_Arabian", "Sarb", "10A60:1F", ""⟩,
    ⟨"Old_Turkic", "Orkh", "10C00:48", "205A DD5"⟩,
    ⟨"Old_Uyghur", "Ougr", "10F70:19", "640 104B1"⟩,
    ⟨"Oriya", "Orya", "B01:2 1:7 2:1 2:15 1:6 1:1 1:4 2:8 2:1 2:2 7:2 4:1 1:4 2:11", "951:1 11:1 1374 17"⟩,
    ⟨"Osage", "Osge", "104B0:23 4:23", "301 2 6 4C"⟩,
    ⟨"Osmanya", "Osma", "10480:1D 2:9", ""⟩,
    ⟨"Pahawh_Hmong", "Hmng", "16B00:45 A:9 1:6 1:14 5:12", ""⟩,
    ⟨"Palmyrene", "Palm", "10860:1F", ""⟩,
    ⟨"Pau_Cin_Hau", "Pauc", "11AC0:38", ""⟩,
    ⟨"Phags_Pa", "Phag", "A840:37", "1802:1 1 829 FD2"⟩,
    ⟨"Phoenician", "Phnx", "10900:1B 3", ""⟩,
    ⟨"Psalter_Pahlavi", "Phlp", "10B80:11 7:3 C:6", "640"⟩,
    ⟨"Rejang", "Rjng", "A930:23 B", ""⟩,
    ⟨"Runic", "Runr", "16A0:4A 3:A", "16EB:2"⟩,
    ⟨"Samaritan", "Samr", "800:2D 2:E", "2E31"⟩,
    ⟨"Saurashtra", "Saur", "A880:45 8:B", ""⟩,
    ⟨"Sharada", "Shrd", "11180:5F", "951 1385 1 2:1 2 9 2 8B42:5 2"⟩,
    ⟨"Shavian", "Shaw", "10450:2F", "B7"⟩,
    ⟨"Siddham", "Sidd", "11580:35 2:25", ""⟩,
    ⟨"SignWriting", "Sgnw", "1D800:28B F:4 1:E", ""⟩,
    ⟨"Sinhala", "Sinh", "D81:2 1:11 3:17 1:8 1 2:6 3 4:5 1 1:7 6:9 2:2 103EC:13", "964:1 138C"⟩,
    ⟨"Sogdian", "Sogd", "10F30:29", "640"⟩,
    ⟨"Sora_Sompeng", "Sora", "110D0:18 7:9", ""⟩,
    ⟨"Soyombo", "Soyo", "11A50:52", ""⟩,
    ⟨"Sundanese", "Sund", "1B80:3F 100:7", ""⟩,
    ⟨"Sunuwar", "Sunu", "11BC0:21 E:9", "300:1 1 9 2 1C 3"⟩,
    ⟨"Syloti_Nagri", "Sylo", "A800:2C", "964:1 80:9"⟩,
    ⟨"Syriac", "Syrc", "700:D 1:3B 2:2 110:A", "303:1 2:1 1 18:2 7:1 1:1 2DA E:1 2 20 A:A 1A 1787 1"⟩,
    ⟨"Tagalog", "Tglg", "1700:15 9", "1735:1"⟩,
    ⟨"Tagbanwa", "Tagb", "1760:C 1:2 1:1", "1735:1"⟩,
    ⟨"Tai_Le", "Tale", "1950:1D 2:4", "300:1 5:1 3 D33:9"⟩,
    ⟨"Tai_Tham", "Lana", "1A20:3E 1:1C 2:A 6:9 6:D", ""⟩,
    ⟨"Tai_Viet", "Tavt", "AA80:42 18:4", ""⟩,
    ⟨"Takri", "Takr", "11680:39 6:9", "964:1 9ECA:9"⟩,
    ⟨"Tamil", "Taml",
      "B82:1 1:5 3:2 1:3 3:1 1 1:1 3:1 3:2 3:B 4:4 3:2 1:3 2 6 E:14 113C5:31 D",
      "951:1 11:1 1374 8C18 6A0D 1 37:1"⟩,
    ⟨"Tangsa", "Tnsa", "16A70:4E 1:9", ""⟩,
    ⟨"Tangut", "Tang", "16FE0 1F:17F7 8:2FF 200:8", "2FF0:F 1EF"⟩,
    ⟨"Telugu", "Telu", "C00:C 1:2 1:16 1:F 2:8 1:2 1:3 7:1 1:2 2 2:3 2:9 7:8", "951:1 11:1 136F:1 1 1 17"⟩,
    ⟨"Thaana", "Thaa", "780:31", "60C E:1 2 40:9 F788 A"⟩,
    ⟨"Thai", "Thai", "E01:39 5:1B", "2BC 1A 2B 2D"⟩,
    ⟨"Tibetan", "Tibt", "F00:47 1:23 4:26 1:23 1:E 1:6 4:1", "3008:3"⟩,
    ⟨"Tifinagh", "Tfng", "2D30:37 7:1 E", "302 1 1:3 19"⟩,
    ⟨"Tirhuta", "Tirh", "11480:47 8:9", "951:1 11:1 136F C F 8B3D:9"⟩,
    ⟨"Todhri", "Todr", "105C0:33", "301 2 2 9 1 4A"⟩,
    ⟨"Toto", "Toto", "1E290:1E", "2BC"⟩,
    ⟨"Tulu_Tigalari", "Tutg", "11380:9 1 2 1:25 1:9 1 2 1:3 1:9 1:1 8:1", "CE6:9 1002 1 8B3B:5 BB"⟩,
    ⟨"Ugaritic", "Ugar", "10380:1D 1", ""⟩,
    ⟨"Vai", "Vaii", "A500:12B", ""⟩,
    ⟨"Vithkuqi", "Vith", "10570:A 1:E 1:6 1:1 1:A 1:E 1:6 1:1", ""⟩,
    ⟨"Wancho", "Wcho", "1E2C0:39 5", ""⟩,
    ⟨"Warang_Citi", "Wara", "118A0:52 C", ""⟩,
    ⟨"Yezidi", "Yezi", "10E80:29 1:2 2:1", "60C E 3 40:9"⟩,
    ⟨"Yi", "Yiii", "A000:48C 3:36", "3001:1 5:9 2:7 DF CE65:4"⟩,
    ⟨"Zanabazar_Square", "Zanb", "11A00:47", ""⟩]

end GateRunner.Pattern
