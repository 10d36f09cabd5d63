/-!
# Properties of characters

The properties that a character has or has not. A property is given by general categories, as far as it goes with them,
and by the characters that are exceptions to that. Sets are written as the general categories are.
-/

namespace GateRunner.Pattern

/-- A property: its name, its short names, the first letters of the categories it goes with, and the exceptions. -/
structure BinaryProperty where
  name : String
  short : String
  like : String
  exceptions : String

/-- The properties by name. -/
def binaryProperties : List BinaryProperty :=
  [⟨"ASCII_Hex_Digit", "AHex", "", "30:9 7:5 1A:5"⟩,
    ⟨"Alphabetic", "Alpha", "L Nl",
      "345 1D:C 240:D 1 1:1 1:1 1 48:A 30:C 1:6 10 65:6 4:3 2:1 4 23 1E:F 66:A 65:1 3:8 1:2 1:3 6A 3C:B 3:6 6:13
       36:1 2:E 1:1 5:2 A:1 1D:2 3A:6 2:1 2:1 A A:1 1D:2 3A:4 4:1 2:1 4 1E:1 3 B:2 3A:7 1:2 1:1 15:1 16:2 4:2
       3A:6 2:1 2:1 9:1 A:1 1E 3B:4 3:2 1:2 A 28:4 39:6 1:2 1:2 8:1 B:1 1D:2 3A:6 1:2 1:2 8:1 B:1 F C:3 3A:6 1:2
       1:2 A A:1 1D:2 4B:5 1 1:7 12:1 3D 2:6 12 63 2:5 1:1 10 A3:12 9:A 1:23 6E:B 1 2:3 17:3 4:2 1:2 2:6 3:3 D:B
       1 A:3 674:1 1E:1 1E:1 1E:1 42:12 BC:1 22 76:B 4:8 DE:4 39:9 2:13 4A:1 B:2 31:4 30:E 3C:2 1E:8 2:1 39:A
       32:12 19C:21 6C1:33 8F6:1F 7874:7 22:1 162 8 17:4 58:1 32:F 1 39 26:4 1C:B 2D:3 30:B 25 43:D C 8:1 2D:2 32
       1:2 2:1 5 2C:4 5 ED:7 4F33 857:4 686:2 1:1 5:3 314:3 41 141:1 4F 103:2 35:D 2D:1 B:2 2D:8 9 3D:2 24:B 12:1
       39:2 30:C E:1 5C:8 2 6 2 9D:9 17:3 3A:6 2:1 2:1 A A:1 54:8 1 2 1:3 1:1 67:C 1:2 6A:11 ED:6 2:6 1D:1 52:E 1
       6A:A 67:D 101:C F7:5 1:1 2:1 3 1 8E:6 2:5 4 1C:9 2A:4 1:3 12:A 2E:D 197:7 1:6 53:15 1:D 7A:5 3 1:1 1:2 1 3
       42:4 1:1 1:3 15C:3 9:1 1 30:6 3:2 41DD:10 E20 1:36 7:3 5D:1 4CAC 2361:6 1:10 2:6 1:1 1:4 64 8B7 7E8:19
       6:19 6:19"⟩,
    ⟨"Bidi_Control", "Bidi_C", "", "61C 19F1:1 1A:4 37:3"⟩,
    ⟨"Bidi_Mirrored", "Bidi_M", "Ps Pe",
      "3C 1 6C F 1F5E 3 1A:1 105 C0:3 3:5 3 3:1 3:3 1:3 1 1 4:8 5 1:11 5:3 9:1 1 1:7 1:1F 2:3 5 9:1 2:12 5:1 9:4
       2:1 4:17 2:F 20:1 49E 2:1 3:1 1:2 5:3 5:2 3:3 1B5:5 1:D 8 7:5 3 4:4 1:1 6 4 1:2 2:1 A:5 10:12 1:3 2 1 2
       1:3 5:1 6:2 18:1 B:1 4:3 1:1 2:1 4:2A 2:7 1:27 5 1 3:4 5:2 4 3:4 1 100 203:3 3:1 1:1 E:1 2:1 20 1DA:2
       CD1E:1 D7:1 1C:F 2:1 1B:1 B6 1 D7BC 39 39 39 39"⟩,
    ⟨"Case_Ignorable", "CI", "Mn Me Cf Lm Sk", "27 6 B 7C 2CF 1D7 94 1A23:1 A 2 DDEB 3E 2 B1 6 B"⟩,
    ⟨"Cased", "", "Lu Ll Lt",
      "AA F 1F5:8 7:1 1E:4 60 34 D81 C2F:3E D 22:24 2B1 D 10:C C3:1F 336:33 792:1 7A1E:1 D2 81:2 3:1 362:3 9 5C16
       2:2 1:29 1:8 D875:3D 10C2:19 6:19 6:19"⟩,
    ⟨"Changes_When_Casefolded", "CWCF", "Lu Lt",
      "B5 29 69 35 1C5 7C D:6 19:1 3 191 E18:55 2:5 882:8 211:1 E4:7 8:7 8:7 A:2 2 A:2 2 2A:2 2 10A 4 3:2 2:2 2
       3:4 6 3 3:1 2:1 1 A:1 5 1A:F 346:19 86A0:4F 4F40:6 C:4 D8E8:19 1A:19 1A:19 1A 1:1 2 2:1 2:3 1:7 1A:19 1A:1
       1:3 2:7 1:6 1B:1 1:3 1:4 1 3:6 1B:19 1A:19 1A:19 1A:19 1A:19 1A:19 1E:18 21:18 21:18 21:18 21:18 21"⟩,
    ⟨"Changes_When_Casemapped", "CWCM", "Lu Ll Lt",
      "138 54 1C:1 E 3 62 12:5 1B 2 1 2:2 2 4 5:1 1 2:1 1:6 1:1 1 2:2 6:4 1 2:6 2:10 95 8C:2 27 163 27 1777:2B
       3F:C 2:2 1:F 1:B 101:1 1 262 4 2:9 1 3:4 6 3 3:1 1:2 1:1 4 2:3 5:4 16:1F 336:33 787 2 2:4 68 7A4B:1 3F:7
       15 6 19 4A 335:22 1:6 5:8 12897:54 1:46 1:1 2 2:1 2:3 1:B 1 1:6 1:40 1:3 2:7 1:6 1:1B 1:3 1:4 1 3:6 1:153
       2:18 1:18 1:1E 1:18 1:1E 1:18 1:1E 1:18 1:1E 1:18 1:7 734:9 1:13 6:5"⟩,
    ⟨"Changes_When_Lowercased", "CWL", "Lu Lt",
      "3D2:2 1D2D 4 3:2 2:2 2 3:4 6 3 3:1 2:1 1 A:1 5 1A:F 346:19 1AF30:19 1A:19 1A:19 1A 1:1 2 2:1 2:3 1:7 1A:19
       1A:1 1:3 2:7 1:6 1B:1 1:3 1:4 1 3:6 1B:19 1A:19 1A:19 1A:19 1A:19 1A:19 1E:18 21:18 21:18 21:18 21:18 21"⟩,
    ⟨"Changes_When_Titlecased", "CWT", "Ll",
      "138 54 1C:1 E 3 5 2 2 26 2F 12:5 1B 2 1 2:2 2 4 5:1 1 2:1 1:6 1:1 1 2:2 6:4 1 2:6 2:10 95 B6 163 27 B47:2A
       2:2 C00:2B 3F:C 2:2 1:F 1:B 101:1 1 26A 3:1 3 1B 4 4 2:1 8:3 26:F 350:19 787 2 2:4 68 7A4B:1 3F:7 15 6 19
       4A 335:22 1:6 5:8 128B1:19 1A:6 1:11 1A:19 1A:3 1 1:6 1:A 1A:19 1A:19 1A:19 1A:19 1A:19 1A:19 1A:19 1A:19
       1A:1B 1C:18 1:5 1A:18 1:5 1A:18 1:5 1A:18 1:5 1A:18 1:5 1 734:9 1:13 6:5"⟩,
    ⟨"Changes_When_Uppercased", "CWU", "Ll",
      "138 54 1C:1 E 3 6 2 2 26 2E 12:5 1B 2 1 2:2 2 4 5:1 1 2:1 1:6 1:1 1 2:2 6:4 1 2:6 2:10 95 B6 163 27
       1777:2B 3F:C 2:2 1:F 1:B 101:1 1 E8:7 8:7 8:7 C F 2F 10D 3:1 3 1B 4 4 2:1 8:3 26:F 350:19 787 2 2:4 68
       7A4B:1 3F:7 15 6 19 4A 335:22 1:6 5:8 128B1:19 1A:6 1:11 1A:19 1A:3 1 1:6 1:A 1A:19 1A:19 1A:19 1A:19
       1A:19 1A:19 1A:19 1A:19 1A:1B 1C:18 1:5 1A:18 1:5 1A:18 1:5 1A:18 1:5 1A:18 1:5 1 734:9 1:13 6:5"⟩,
    ⟨"Dash", "", "Pd", "2053 27 F 186"⟩,
    ⟨"Default_Ignorable_Code_Point", "DI", "",
      "AD 2A1 2CC B42:1 653:1 55:4 7FB:4 1A:4 31:F 10F4 CC9B:F EF A0 4F:8 BCA7:3 14CF:7 C2E85:FFF"⟩,
    ⟨"Deprecated", "Dep", "", "149 529 903 1 829:1 8C5:5 2B9:1 DDCD6"⟩,
    ⟨"Diacritic", "Dia", "",
      "5E 1 47 6 4 2:1 1F7:9E 1:7 5:5 11:1 4 9:1 FD:4 D1 37:2C 1 1:1 1:1 1 83:7 4:1 86:1 4:1 3:2 43:1A 5B:A 3A:A
       22:1 7E:7 29:9 10:1B 3D 10 3:3 1C 4A 10 6E 10 6E 10 2F:2 3C 10 7 77 6E 10 6E 10 6D:1 10 7C 6F C:5 1 6B D:4
       4B:1 1B 1 1 4:1 42:2 1:1 3E 70 1:1 28:1 4:4 19:6 1 A:1 2C1:2 3B4:1 1E 94:A 9 15B:2 124 14:7 2 30:E 2:A 68
       F 26:8 36:1 3A B:1 42:1 40:5 52:18 4 6 2:2 32:3E 30:23 5:B 25:A 1BD 1:2 B:2 D:2 D:2 D:1 CF0:2 13D 1FA:5
       69:3 5F 7572 C:1 1 1C:1 52:1 E:21 66:2 6D:1 C 25 97 1B:11 39:3 24 5F C 24 95:2 41:3 33 64:4 9:2 80:1 4F30
       301:F 10E 1 2F 2D:1 43 2FC 49F:5 1:29 1:8 27D:2 4 A5:1 23B:5 26 1A:4 18F:2 46:A 31:3 C0 29 48:1 78:1 3E 4C
       9:2 68:1 B2:1 50:1 10 18:6 3:4 59:2 1:1 D:1 5F 3 7B:1 FB:1 7E 76:1 73 10D:1 102:1 4 9C 53 12 51 1A5 102
       1:1 51 1A9:1 17 14EC:E 2CD9 9C0:4 3B:6 234:1 222:10 50:1 3FFE:3 1:6 1:1 1F01:2D 2:16 220:2 3:5 8:7 2:6
       1E:3 E82:3D C2:6 177 3D:3 2FE:1 2E0:6 6D:2 1:2"⟩,
    ⟨"Emoji", "", "",
      "23 6 5:9 6F 4 1F8D C D8 16 5A:5 F:1 16F:1 C A6 19:A 4:2 C7 E7:1 A 9 3A:3 1:4 9 2 2:1 2 4 2 1:1 2 3 3:1 8:2
       5 1 5:B B:1 2 1:1 1 12 2:1 12:5 1 1:1 3:1 5 2:1 4:1 B:1 5:1 2 5:1 1 1:1 14:1 5:5 1:3 2 4 2 2:5 1 2 1 1 6 3
       6 A:1 F 2 4 1 4:2 1 B:1 30:2 9 E E 174:1 1CF:2 13:1 33 4 4DA C 259 1 1BD6A CA A0:1 C:1 E 2:9 4B:19 1:1 17
       14 2:8 15:1 AE:21 2:6F 2:1 1:2 2:52 2:2 1:106 1:3E B:5 1:17 7:1 2:7 C 2:3 2 4:1 D:1 2 8:1 9 5:2 C:2 8:2 2
       1 4 6 3 6:55 30:45 5:7 2:2 4:9 3 1:1 3 2:9 E3:B 4 11B:2E 1:9 1:B8 70:C 3:9 5:37 7:E 2:A 6:8"⟩,
    ⟨"Emoji_Component", "EComp", "", "23 6 5:9 1FD3 D5 DD2B F3D6:19 1FB:4 5B0:3 C066C:5F"⟩,
    ⟨"Emoji_Modifier", "EMod", "", "1F3FB:4"⟩,
    ⟨"Emoji_Modifier_Base", "EBase", "",
      "261D DB 10:3 1CC77 3C:2 2 2:2 75:1 2:A 15:12 3 4:2 1:2 7 1 18 C9:1 4 15 4:1 AE:2 3:4 53 10:2 9 B 23F 2 8:7
       6 9:9 2:2 38 3D:1 1:1 1 11:2 1:C E5:2 2A:8"⟩,
    ⟨"Emoji_Presentation", "EPres", "",
      "231A:1 CD:3 3 2 209:1 15:1 32:B 2B 13 D 8:1 11:1 5:1 8 5 15 7:1 1 4 2 7 4:1 1C 23 1 4:2 1 3D:2 18 E 35B:1
       33 4 1C4AE CA BE 2:9 4B:19 1 18 14 2:4 1:2 15:1 AE:20 C:8 1:45 1:15 C:2A 4:4 C:10 3 3:46 1 1:BA 2:3E D:3
       1:17 12 1A:1 D 56:54 30:45 6 3:2 2:2 4:3 B:1 7:8 E3:B 4 11B:2E 1:9 1:B8 70:C 3:9 5:37 7:E 2:A 6:8"⟩,
    ⟨"Extended_Pictographic", "ExtPict", "",
      "A9 4 1F8D C D8 16 5A:5 F:1 16F:1 C A6 19:A 4:2 C7 E7:1 A 9 3A:3 1:4 9 2 2:1 2 4 2 1:1 2 3 3:1 8:2 5 1 5:B
       B:1 2 1:1 1 12 2:1 12:5 1 1:1 3:1 5 2:1 4:1 B:1 5:1 2 5:1 1 1:1 14:1 5:5 1:3 2 4 2 2:5 1 2 1 1 6 3 6 A:1 F
       2 4 1 4:2 1 B:1 30:2 9 E E 174:1 1CF:2 13:1 33 4 4DA C 259 1 1BD6A 27:3 64:B F:1 F E:1 25:9 70:1 C:1 E 2:9
       13:37 1B:E A 14 2:8 1:3 9:16 6:BB 2:6F 2:1 1:2 2:52 2:2 1:3 5:FD 1:3E B:5 1:17 7:1 2:7 C 2:3 2 4:1 D:1 2
       8:1 9 5:2 C:2 8:2 2 1 4 6 3 6:55 30:45 5:7 2:2 1:C 3 1:5 2:C DA:25 C:3 38:7 A:5 28:7 1E:1 C:3 2:D 9:26
       C:2E 1:9 1:B8 58:7 E:1B 1:2 1:38 1:3 1:1B 1:3 1:F 100:3FD"⟩,
    ⟨"Extender", "Ext", "",
      "B7 218:1 36E 1B9 276 89 59 2F0 7F 943 38 263 18E 44 1389 2B:4 67:1 5D:2 6F16 5F6 3C2 16 89 6C 15:1 547B
       810:1 5CB 1B 4 4C7 125 74:1 1F2:2 4CF 50A9:1 49C:1 1 7158:1 4B1 354:2"⟩,
    ⟨"Grapheme_Base", "Gr_Base", "L N P S Zs Mc",
      "9BE 18 166 18 66 18 E8 1 4:1 1:1 9:1 67 18 77 F 935 1E 400 5 1 5:1 65 47:1 143A:1 7923 6C 55DD:1 1220 74
       108 E 9 60 9 2 1:2 5 E0 C F1 106 279 C 603 50AE:1 6173:1 6:5"⟩,
    ⟨"Grapheme_Extend", "Gr_Ext", "Mn Me",
      "9BE 18 166 18 66 18 E8 1 4:1 1:1 9:1 67 18 77 F 935 1E 400 5 1 5:1 65 47:1 418 1021:1 7923 6C 55DD:1 1220
       74 108 E 9 60 9 2 1:2 5 E0 C F1 106 279 C 603 50AE:1 6173:1 6:5 C2EAD:5F"⟩,
    ⟨"Hex_Digit", "Hex", "", "30:9 7:5 1A:5 FEA9:9 7:5 1A:5"⟩,
    ⟨"Hyphen", "", "", "2D 7F 4DC 127B 809:1 E05 2E3 CD67 A9 57"⟩,
    ⟨"IDS_Binary_Operator", "IDSB", "", "2FF0:1 2:9 1F1"⟩,
    ⟨"IDS_Trinary_Operator", "IDST", "", "2FF2:1"⟩,
    ⟨"IDS_Unary_Operator", "IDSU", "", "2FFE:1"⟩,
    ⟨"ID_Compat_Math_Continue", "", "", "B2:1 5 1FB6 3:A 1:E 173 4 16 1B4A2 19 1F 19 1F 19 1F 19 1F 19"⟩,
    ⟨"ID_Compat_Math_Start", "", "", "2202 4 16 1B4A2 19 1F 19 1F 19 1F 19 1F 19"⟩,
    ⟨"ID_Continue", "IDC", "L Nl Mn Mc Nd Pc", "B7 2CF FE1:8 668 631:1 10A 15 D00 26B:1 5E CE69"⟩,
    ⟨"ID_Start", "IDS", "L Nl", "1885:1 891 15 D00 26B:1"⟩,
    ⟨"Ideographic", "Ideo", "",
      "3006:1 19:8 E:2 3C5:19BF 40:51FF 5900:16D 2:69 750A 1B:17F7 8:4D5 29:9 2467:18B 4D04:A6DF 20:1039 6:DD
       2:1681 E:1D30 F:26D 9A2:21D 5E2:134A 5:105F"⟩,
    ⟨"Join_Control", "Join_C", "", "200C:1"⟩,
    ⟨"Logical_Order_Exception", "LOE", "", "E40:4 7B:4 AF0:2 2 90FA:1 2 1:1"⟩,
    ⟨"Lowercase", "Lower", "Ll",
      "AA F 1F5:8 7:1 1E:4 60 34 D81 C2F:3E D 22:24 2B1 D 10:C D3:F 350:19 792:1 7A1E:1 D2 81:2 3:1 362:3 9 5C16
       2:2 1:29 1:8 D875:3D"⟩,
    ⟨"Math", "", "Sm",
      "5E 371:2 2 1A:1 2:1 1C20 1B:2 B 20:3 18:1 E:1 41:C 4 3:1 4:4 12 4 2:9 1 3:4 6 3:1 2:1 1:2 1:5 3:3 5:4 4B:4
       2:3 1:1 1:1 1 1:4 2:1 4:1 4:11 2:1 1 1:6 1 6:1 122:3 A8:1 1 18 11 1BD:1 C:8 5:4 5:1 2:1 3:4 E 1 2:5 18:1
       39 1 1D:3 9:1 156:1 1F:9 193:15 3F:3 20:1 D463 1 4 D3 1 D4C1:54 1:46 1:1 2 2:1 2:3 1:B 1 1:6 1:40 1:3 2:7
       1:6 1:1B 1:3 1:4 1 3:6 1:153 2:18 1:18 1:1E 1:18 1:1E 1:18 1:1E 1:18 1:1E 1:18 1:7 2:31 1600:3 1:1A 1:1 1
       2 1:9 1:3 1 1 6 4 1 1 1:2 1:1 1 2 1 1 1 1 1:1 1 2:3 1:6 1:3 1:3 1 1:9 1:10 5:2 1:4 1:10"⟩,
    ⟨"Noncharacter_Code_Point", "NChar", "",
      "FDD0:1F 20E:1 FFFE:1 FFFE:1 FFFE:1 FFFE:1 FFFE:1 FFFE:1 FFFE:1 FFFE:1 FFFE:1 FFFE:1 FFFE:1 FFFE:1 FFFE:1
       FFFE:1 FFFE:1 FFFE:1"⟩,
    ⟨"Other_ID_Continue", "OIDC", "", "B7 2CF FE1:8 668 631:1 10ED CE69"⟩,
    ⟨"Other_ID_Start", "OIDS", "", "1885:1 891 15 F6C:1"⟩,
    ⟨"Pattern_Syntax", "Pat_Syn", "",
      "21:E A:6 1A:3 1 1A:3 22:6 1 1:1 1 1:1 4 4 3 17 1F 1F18:17 8:E 2:12 1:9 131:2CF A0:275 1E:401 1:68 200:7F
       181:2 4:18 F CD0D:1 105:1"⟩,
    ⟨"Pattern_White_Space", "Pat_WS", "", "9:4 12 64 1F88:1 18:1"⟩,
    ⟨"Prepended_Concatenation_Mark", "PCM", "", "600:5 D7 31 180:1 50 107DA F"⟩,
    ⟨"Quotation_Mark", "QMark", "", "22 4 83 F 1F5C:7 19:1 E07 1C9:3 D:2 CE21:3 BD 4 5A:1"⟩,
    ⟨"Radical", "", "", "2E80:19 1:58 C:D5"⟩,
    ⟨"Regional_Indicator", "RI", "", "1F1E6:19"⟩,
    ⟨"Sentence_Terminal", "STerm", "",
      "21 C 10 549 93:2 B4 2B:2 F6 3D 1 3:1 125:1 6E4:1 316 4:1 305 C6:1 9D:1 2D 5 13A:1 162:3 A2:1 A:1 2:1 1D:2
       BB:1 41:1 3A4 17:1 9:2 CAF:2 132 D 16:1 1AD 74FC 10E:1 E3 3 17E:1 56:1 5F 98:1 93:2 90:1 F9 5226 2:1 3B
       3:1 A9 C 10 41 AF4:1 4FD:4 2C:3 BD:1 75:3 7F:2 81:1 6 10:1 58:1 1:1 6C 12A:1 75:1 175:1 5:E 69:1 F9:2 205
       1 FB:1 57:1 1A4:1 2B4:1 4A:1 4B29:1 85 41:1 B 229:1 128 4E06 1DE8"⟩,
    ⟨"Soft_Dotted", "SD", "",
      "69:1 C4 119 1E 34 14 140 62 1 1909 33 D 3 84 9D 1A5 D6:1 B32 1A7A5:1 32:1 32:1 32:1 32:1 32:1 32:1 32:1
       32:1 32:1 32:1 32:1 32:1 886 131:1 1A"⟩,
    ⟨"Terminal_Punctuation", "Term", "",
      "21 A 1 B:1 3 33E 8 201 39 48 E 1:2 B4 2B:A 1 EB:1 36:5 1:7 1F 105:1 4F4:1 AC 4:5 137:1 315:7 305 7C:2 47:1
       9D:2 3 27:3 2:1 13A:1 162:3 A2:1 A:1 1:2 1D:2 BB:4 3E:1 3A4 17:1 9:2 CAF:2 132 D 4 A 1:1 3:1 1AC:1 74FB:1
       10D:2 E3:4 17E:1 56:1 5F 97:2 93:2 7F 10:1 F9 5226 2:1 39:2 1:3 A9 A 1 B:1 3 41 2 43A 30 486 C7 136:1 98:5
       44:5 59:3 3B8:4 2C:3 BD:6 70:3 7F:2 81:1 6 10:1 58:4 6C 12A:1 75:2 C:1 166:3 3:E 69:1 F9:2 205 1 FB:1 57:1
       4:1 19E:2 2D 285:1 4A:1 52B:4 45F9:1 85 41:2 A 229:1 127:1 4E06 1DE7:3"⟩,
    ⟨"Unified_Ideograph", "UIdeo", "",
      "3400:19BF 40:51FF 5A0E:1 1 1:1 A 1 1:1 2:2 105D6:A6DF 20:1039 6:DD 2:1681 E:1D30 F:26D 11A2:134A 5:105F"⟩,
    ⟨"Uppercase", "Upper", "Lu", "2160:F 346:19 1CC60:19 6:19 6:19"⟩,
    ⟨"Variation_Selector", "VS", "", "180B:2 1 E5F0:F D02F0:EF"⟩,
    ⟨"White_Space", "WSpace space", "", "9:4 12 64 1A 15DF 97F:A 1D:1 5 2F FA0"⟩,
    ⟨"XID_Continue", "XIDC", "L Nl Mn Mc Nd Pc",
      "B7 2C2 C FE1:8 668 631:1 10A 15 D00 2CB CB62:5 196:1 74 1 1 1 1 1 1 1 E6"⟩,
    ⟨"XID_Start", "XIDS", "L Nl", "37A AB8 7F 9D1:1 891 15 D00 CE2E:5 196:1 74 1 1 1 1 1 1 1 11F:1"⟩]

end GateRunner.Pattern
