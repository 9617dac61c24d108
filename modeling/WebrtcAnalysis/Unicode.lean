/-
WebrtcAnalysis/Unicode.lean

The character properties that the scripts' text handling reads, as CPython
computes them from the Unicode Character Database (version 14.0).

* `decimalDigit?` is `Py_UNICODE_TODECIMAL`, the value of a decimal digit
  (general category Nd).  `\d` of a `str` pattern matches exactly these
  characters, `int()` reads them, and `float()` reads them once it has
  turned them into ASCII digits.
* `isAlnum` is `str.isalnum` on one character.  `\w` matches it and `_`.
* `lowerChar` is the full lowercase mapping that `str.lower` applies to one
  character, and `finalSigma` is the Final_Sigma context in which `str.lower`
  lowers `Σ` to `ς` instead of `σ`.

Above ASCII each property is a table of code points, written as the
database's files write them: hexadecimal ranges `first:last`, the first code
point of each run of the ten digits, or runs `first:last:step:offset` of
letters that lower by one decimal offset.  ASCII is decided first, apart from the
tables, so a test on ASCII text computes without reading one
(`decimalDigit?_of_isDigit`, `lowerChar_of_lt`).
-/
import Mathlib.Data.List.Basic

namespace WebrtcAnalysis

/-! ### Reading the tables -/

/-- The value of a hexadecimal numeral in upper case. -/
def hexValue (s : List Char) : Nat :=
  s.foldl (fun n c => 16 * n + if c.isDigit then c.toNat - '0'.toNat else c.toNat - 'A'.toNat + 10) 0

/-- The value of a decimal numeral with an optional `-`. -/
def intValue : List Char → Int
  | '-' :: s => -(s.foldl (fun n c => 10 * n + (c.toNat - '0'.toNat)) 0 : Nat)
  | s => (s.foldl (fun n c => 10 * n + (c.toNat - '0'.toNat)) 0 : Nat)

/-- The entries of a table, separated by spaces or line breaks, each cut into
its `:`-separated fields. -/
def tableEntries (t : String) : List (List (List Char)) :=
  ((t.toList.splitOnP fun c => c == ' ' || c == '\n').filter (!·.isEmpty)).map (·.splitOn ':')

/-- A table of ranges `first:last`. -/
def readRanges (t : String) : List (Nat × Nat) :=
  (tableEntries t).map fun
    | [a, b] => (hexValue a, hexValue b)
    | e => (hexValue (e.headD []), hexValue (e.headD []))

/-- Whether `n` lies in one of the inclusive ranges `rs`. -/
def inRanges (rs : List (Nat × Nat)) (n : Nat) : Bool :=
  rs.any fun r => r.1 ≤ n && n ≤ r.2

/-! ### Tables -/

/-- The first code point of each run of the ten decimal digits above ASCII. -/
def decimalStarts : List Nat :=
  (tableEntries
    "660 6F0 7C0 966 9E6 A66 AE6 B66 BE6 C66 CE6 D66 DE6 E50 ED0 F20 1040 1090 17E0 1810 1946
    19D0 1A80 1A90 1B50 1BB0 1C40 1C50 A620 A8D0 A900 A9D0 A9F0 AA50 ABF0 FF10 104A0 10D30 11066
    110F0 11136 111D0 112F0 11450 114D0 11650 116C0 11730 118E0 11950 11C50 11D50 11DA0 16A60
    16AC0 16B50 1D7CE 1D7D8 1D7E2 1D7EC 1D7F6 1E140 1E2F0 1E950 1FBF0").map fun e => hexValue (e.headD [])

/-- The code points above ASCII that `str.isalnum` accepts. -/
def alnumRanges : List (Nat × Nat) := readRanges
    "AA:AA B2:B3 B5:B5 B9:BA BC:BE C0:D6 D8:F6 F8:2C1 2C6:2D1 2E0:2E4 2EC:2EC 2EE:2EE 370:374
    376:377 37A:37D 37F:37F 386:386 388:38A 38C:38C 38E:3A1 3A3:3F5 3F7:481 48A:52F 531:556
    559:559 560:588 5D0:5EA 5EF:5F2 620:64A 660:669 66E:66F 671:6D3 6D5:6D5 6E5:6E6 6EE:6FC
    6FF:6FF 710:710 712:72F 74D:7A5 7B1:7B1 7C0:7EA 7F4:7F5 7FA:7FA 800:815 81A:81A 824:824
    828:828 840:858 860:86A 870:887 889:88E 8A0:8C9 904:939 93D:93D 950:950 958:961 966:96F
    971:980 985:98C 98F:990 993:9A8 9AA:9B0 9B2:9B2 9B6:9B9 9BD:9BD 9CE:9CE 9DC:9DD 9DF:9E1
    9E6:9F1 9F4:9F9 9FC:9FC A05:A0A A0F:A10 A13:A28 A2A:A30 A32:A33 A35:A36 A38:A39 A59:A5C
    A5E:A5E A66:A6F A72:A74 A85:A8D A8F:A91 A93:AA8 AAA:AB0 AB2:AB3 AB5:AB9 ABD:ABD AD0:AD0
    AE0:AE1 AE6:AEF AF9:AF9 B05:B0C B0F:B10 B13:B28 B2A:B30 B32:B33 B35:B39 B3D:B3D B5C:B5D
    B5F:B61 B66:B6F B71:B77 B83:B83 B85:B8A B8E:B90 B92:B95 B99:B9A B9C:B9C B9E:B9F BA3:BA4
    BA8:BAA BAE:BB9 BD0:BD0 BE6:BF2 C05:C0C C0E:C10 C12:C28 C2A:C39 C3D:C3D C58:C5A C5D:C5D
    C60:C61 C66:C6F C78:C7E C80:C80 C85:C8C C8E:C90 C92:CA8 CAA:CB3 CB5:CB9 CBD:CBD CDD:CDE
    CE0:CE1 CE6:CEF CF1:CF2 D04:D0C D0E:D10 D12:D3A D3D:D3D D4E:D4E D54:D56 D58:D61 D66:D78
    D7A:D7F D85:D96 D9A:DB1 DB3:DBB DBD:DBD DC0:DC6 DE6:DEF E01:E30 E32:E33 E40:E46 E50:E59
    E81:E82 E84:E84 E86:E8A E8C:EA3 EA5:EA5 EA7:EB0 EB2:EB3 EBD:EBD EC0:EC4 EC6:EC6 ED0:ED9
    EDC:EDF F00:F00 F20:F33 F40:F47 F49:F6C F88:F8C 1000:102A 103F:1049 1050:1055 105A:105D
    1061:1061 1065:1066 106E:1070 1075:1081 108E:108E 1090:1099 10A0:10C5 10C7:10C7 10CD:10CD
    10D0:10FA 10FC:1248 124A:124D 1250:1256 1258:1258 125A:125D 1260:1288 128A:128D 1290:12B0
    12B2:12B5 12B8:12BE 12C0:12C0 12C2:12C5 12C8:12D6 12D8:1310 1312:1315 1318:135A 1369:137C
    1380:138F 13A0:13F5 13F8:13FD 1401:166C 166F:167F 1681:169A 16A0:16EA 16EE:16F8 1700:1711
    171F:1731 1740:1751 1760:176C 176E:1770 1780:17B3 17D7:17D7 17DC:17DC 17E0:17E9 17F0:17F9
    1810:1819 1820:1878 1880:1884 1887:18A8 18AA:18AA 18B0:18F5 1900:191E 1946:196D 1970:1974
    1980:19AB 19B0:19C9 19D0:19DA 1A00:1A16 1A20:1A54 1A80:1A89 1A90:1A99 1AA7:1AA7 1B05:1B33
    1B45:1B4C 1B50:1B59 1B83:1BA0 1BAE:1BE5 1C00:1C23 1C40:1C49 1C4D:1C7D 1C80:1C88 1C90:1CBA
    1CBD:1CBF 1CE9:1CEC 1CEE:1CF3 1CF5:1CF6 1CFA:1CFA 1D00:1DBF 1E00:1F15 1F18:1F1D 1F20:1F45
    1F48:1F4D 1F50:1F57 1F59:1F59 1F5B:1F5B 1F5D:1F5D 1F5F:1F7D 1F80:1FB4 1FB6:1FBC 1FBE:1FBE
    1FC2:1FC4 1FC6:1FCC 1FD0:1FD3 1FD6:1FDB 1FE0:1FEC 1FF2:1FF4 1FF6:1FFC 2070:2071 2074:2079
    207F:2089 2090:209C 2102:2102 2107:2107 210A:2113 2115:2115 2119:211D 2124:2124 2126:2126
    2128:2128 212A:212D 212F:2139 213C:213F 2145:2149 214E:214E 2150:2189 2460:249B 24EA:24FF
    2776:2793 2C00:2CE4 2CEB:2CEE 2CF2:2CF3 2CFD:2CFD 2D00:2D25 2D27:2D27 2D2D:2D2D 2D30:2D67
    2D6F:2D6F 2D80:2D96 2DA0:2DA6 2DA8:2DAE 2DB0:2DB6 2DB8:2DBE 2DC0:2DC6 2DC8:2DCE 2DD0:2DD6
    2DD8:2DDE 2E2F:2E2F 3005:3007 3021:3029 3031:3035 3038:303C 3041:3096 309D:309F 30A1:30FA
    30FC:30FF 3105:312F 3131:318E 3192:3195 31A0:31BF 31F0:31FF 3220:3229 3248:324F 3251:325F
    3280:3289 32B1:32BF 3400:4DBF 4E00:A48C A4D0:A4FD A500:A60C A610:A62B A640:A66E A67F:A69D
    A6A0:A6EF A717:A71F A722:A788 A78B:A7CA A7D0:A7D1 A7D3:A7D3 A7D5:A7D9 A7F2:A801 A803:A805
    A807:A80A A80C:A822 A830:A835 A840:A873 A882:A8B3 A8D0:A8D9 A8F2:A8F7 A8FB:A8FB A8FD:A8FE
    A900:A925 A930:A946 A960:A97C A984:A9B2 A9CF:A9D9 A9E0:A9E4 A9E6:A9FE AA00:AA28 AA40:AA42
    AA44:AA4B AA50:AA59 AA60:AA76 AA7A:AA7A AA7E:AAAF AAB1:AAB1 AAB5:AAB6 AAB9:AABD AAC0:AAC0
    AAC2:AAC2 AADB:AADD AAE0:AAEA AAF2:AAF4 AB01:AB06 AB09:AB0E AB11:AB16 AB20:AB26 AB28:AB2E
    AB30:AB5A AB5C:AB69 AB70:ABE2 ABF0:ABF9 AC00:D7A3 D7B0:D7C6 D7CB:D7FB F900:FA6D FA70:FAD9
    FB00:FB06 FB13:FB17 FB1D:FB1D FB1F:FB28 FB2A:FB36 FB38:FB3C FB3E:FB3E FB40:FB41 FB43:FB44
    FB46:FBB1 FBD3:FD3D FD50:FD8F FD92:FDC7 FDF0:FDFB FE70:FE74 FE76:FEFC FF10:FF19 FF21:FF3A
    FF41:FF5A FF66:FFBE FFC2:FFC7 FFCA:FFCF FFD2:FFD7 FFDA:FFDC 10000:1000B 1000D:10026
    10028:1003A 1003C:1003D 1003F:1004D 10050:1005D 10080:100FA 10107:10133 10140:10178
    1018A:1018B 10280:1029C 102A0:102D0 102E1:102FB 10300:10323 1032D:1034A 10350:10375
    10380:1039D 103A0:103C3 103C8:103CF 103D1:103D5 10400:1049D 104A0:104A9 104B0:104D3
    104D8:104FB 10500:10527 10530:10563 10570:1057A 1057C:1058A 1058C:10592 10594:10595
    10597:105A1 105A3:105B1 105B3:105B9 105BB:105BC 10600:10736 10740:10755 10760:10767
    10780:10785 10787:107B0 107B2:107BA 10800:10805 10808:10808 1080A:10835 10837:10838
    1083C:1083C 1083F:10855 10858:10876 10879:1089E 108A7:108AF 108E0:108F2 108F4:108F5
    108FB:1091B 10920:10939 10980:109B7 109BC:109CF 109D2:10A00 10A10:10A13 10A15:10A17
    10A19:10A35 10A40:10A48 10A60:10A7E 10A80:10A9F 10AC0:10AC7 10AC9:10AE4 10AEB:10AEF
    10B00:10B35 10B40:10B55 10B58:10B72 10B78:10B91 10BA9:10BAF 10C00:10C48 10C80:10CB2
    10CC0:10CF2 10CFA:10D23 10D30:10D39 10E60:10E7E 10E80:10EA9 10EB0:10EB1 10F00:10F27
    10F30:10F45 10F51:10F54 10F70:10F81 10FB0:10FCB 10FE0:10FF6 11003:11037 11052:1106F
    11071:11072 11075:11075 11083:110AF 110D0:110E8 110F0:110F9 11103:11126 11136:1113F
    11144:11144 11147:11147 11150:11172 11176:11176 11183:111B2 111C1:111C4 111D0:111DA
    111DC:111DC 111E1:111F4 11200:11211 11213:1122B 11280:11286 11288:11288 1128A:1128D
    1128F:1129D 1129F:112A8 112B0:112DE 112F0:112F9 11305:1130C 1130F:11310 11313:11328
    1132A:11330 11332:11333 11335:11339 1133D:1133D 11350:11350 1135D:11361 11400:11434
    11447:1144A 11450:11459 1145F:11461 11480:114AF 114C4:114C5 114C7:114C7 114D0:114D9
    11580:115AE 115D8:115DB 11600:1162F 11644:11644 11650:11659 11680:116AA 116B8:116B8
    116C0:116C9 11700:1171A 11730:1173B 11740:11746 11800:1182B 118A0:118F2 118FF:11906
    11909:11909 1190C:11913 11915:11916 11918:1192F 1193F:1193F 11941:11941 11950:11959
    119A0:119A7 119AA:119D0 119E1:119E1 119E3:119E3 11A00:11A00 11A0B:11A32 11A3A:11A3A
    11A50:11A50 11A5C:11A89 11A9D:11A9D 11AB0:11AF8 11C00:11C08 11C0A:11C2E 11C40:11C40
    11C50:11C6C 11C72:11C8F 11D00:11D06 11D08:11D09 11D0B:11D30 11D46:11D46 11D50:11D59
    11D60:11D65 11D67:11D68 11D6A:11D89 11D98:11D98 11DA0:11DA9 11EE0:11EF2 11FB0:11FB0
    11FC0:11FD4 12000:12399 12400:1246E 12480:12543 12F90:12FF0 13000:1342E 14400:14646
    16800:16A38 16A40:16A5E 16A60:16A69 16A70:16ABE 16AC0:16AC9 16AD0:16AED 16B00:16B2F
    16B40:16B43 16B50:16B59 16B5B:16B61 16B63:16B77 16B7D:16B8F 16E40:16E96 16F00:16F4A
    16F50:16F50 16F93:16F9F 16FE0:16FE1 16FE3:16FE3 17000:187F7 18800:18CD5 18D00:18D08
    1AFF0:1AFF3 1AFF5:1AFFB 1AFFD:1AFFE 1B000:1B122 1B150:1B152 1B164:1B167 1B170:1B2FB
    1BC00:1BC6A 1BC70:1BC7C 1BC80:1BC88 1BC90:1BC99 1D2E0:1D2F3 1D360:1D378 1D400:1D454
    1D456:1D49C 1D49E:1D49F 1D4A2:1D4A2 1D4A5:1D4A6 1D4A9:1D4AC 1D4AE:1D4B9 1D4BB:1D4BB
    1D4BD:1D4C3 1D4C5:1D505 1D507:1D50A 1D50D:1D514 1D516:1D51C 1D51E:1D539 1D53B:1D53E
    1D540:1D544 1D546:1D546 1D54A:1D550 1D552:1D6A5 1D6A8:1D6C0 1D6C2:1D6DA 1D6DC:1D6FA
    1D6FC:1D714 1D716:1D734 1D736:1D74E 1D750:1D76E 1D770:1D788 1D78A:1D7A8 1D7AA:1D7C2
    1D7C4:1D7CB 1D7CE:1D7FF 1DF00:1DF1E 1E100:1E12C 1E137:1E13D 1E140:1E149 1E14E:1E14E
    1E290:1E2AD 1E2C0:1E2EB 1E2F0:1E2F9 1E7E0:1E7E6 1E7E8:1E7EB 1E7ED:1E7EE 1E7F0:1E7FE
    1E800:1E8C4 1E8C7:1E8CF 1E900:1E943 1E94B:1E94B 1E950:1E959 1EC71:1ECAB 1ECAD:1ECAF
    1ECB1:1ECB4 1ED01:1ED2D 1ED2F:1ED3D 1EE00:1EE03 1EE05:1EE1F 1EE21:1EE22 1EE24:1EE24
    1EE27:1EE27 1EE29:1EE32 1EE34:1EE37 1EE39:1EE39 1EE3B:1EE3B 1EE42:1EE42 1EE47:1EE47
    1EE49:1EE49 1EE4B:1EE4B 1EE4D:1EE4F 1EE51:1EE52 1EE54:1EE54 1EE57:1EE57 1EE59:1EE59
    1EE5B:1EE5B 1EE5D:1EE5D 1EE5F:1EE5F 1EE61:1EE62 1EE64:1EE64 1EE67:1EE6A 1EE6C:1EE72
    1EE74:1EE77 1EE79:1EE7C 1EE7E:1EE7E 1EE80:1EE89 1EE8B:1EE9B 1EEA1:1EEA3 1EEA5:1EEA9
    1EEAB:1EEBB 1F100:1F10C 1FBF0:1FBF9 20000:2A6DF 2A700:2B738 2B740:2B81D 2B820:2CEA1
    2CEB0:2EBE0 2F800:2FA1D 30000:3134A"

/-- The one-character lowercase mappings above ASCII, as runs
`first:last:step:offset`: every `step`-th code point from `first` to `last`
lowers to itself plus `offset`. -/
def lowerRuns : List (Nat × Nat × Nat × Int) :=
  (tableEntries
    "C0:D6:1:32 D8:DE:1:32 100:12E:2:1 132:136:2:1 139:147:2:1 14A:176:2:1 178:178:1:-121
    179:17D:2:1 181:181:1:210 182:184:2:1 186:186:1:206 187:187:1:1 189:18A:1:205 18B:18B:1:1
    18E:18E:1:79 18F:18F:1:202 190:190:1:203 191:191:1:1 193:193:1:205 194:194:1:207
    196:196:1:211 197:197:1:209 198:198:1:1 19C:19C:1:211 19D:19D:1:213 19F:19F:1:214
    1A0:1A4:2:1 1A6:1A6:1:218 1A7:1A7:1:1 1A9:1A9:1:218 1AC:1AC:1:1 1AE:1AE:1:218 1AF:1AF:1:1
    1B1:1B2:1:217 1B3:1B5:2:1 1B7:1B7:1:219 1B8:1B8:1:1 1BC:1BC:1:1 1C4:1C4:1:2 1C5:1C5:1:1
    1C7:1C7:1:2 1C8:1C8:1:1 1CA:1CA:1:2 1CB:1DB:2:1 1DE:1EE:2:1 1F1:1F1:1:2 1F2:1F4:2:1
    1F6:1F6:1:-97 1F7:1F7:1:-56 1F8:21E:2:1 220:220:1:-130 222:232:2:1 23A:23A:1:10795
    23B:23B:1:1 23D:23D:1:-163 23E:23E:1:10792 241:241:1:1 243:243:1:-195 244:244:1:69
    245:245:1:71 246:24E:2:1 370:372:2:1 376:376:1:1 37F:37F:1:116 386:386:1:38 388:38A:1:37
    38C:38C:1:64 38E:38F:1:63 391:3A1:1:32 3A3:3AB:1:32 3CF:3CF:1:8 3D8:3EE:2:1 3F4:3F4:1:-60
    3F7:3F7:1:1 3F9:3F9:1:-7 3FA:3FA:1:1 3FD:3FF:1:-130 400:40F:1:80 410:42F:1:32 460:480:2:1
    48A:4BE:2:1 4C0:4C0:1:15 4C1:4CD:2:1 4D0:52E:2:1 531:556:1:48 10A0:10C5:1:7264
    10C7:10C7:1:7264 10CD:10CD:1:7264 13A0:13EF:1:38864 13F0:13F5:1:8 1C90:1CBA:1:-3008
    1CBD:1CBF:1:-3008 1E00:1E94:2:1 1E9E:1E9E:1:-7615 1EA0:1EFE:2:1 1F08:1F0F:1:-8
    1F18:1F1D:1:-8 1F28:1F2F:1:-8 1F38:1F3F:1:-8 1F48:1F4D:1:-8 1F59:1F5F:2:-8 1F68:1F6F:1:-8
    1F88:1F8F:1:-8 1F98:1F9F:1:-8 1FA8:1FAF:1:-8 1FB8:1FB9:1:-8 1FBA:1FBB:1:-74 1FBC:1FBC:1:-9
    1FC8:1FCB:1:-86 1FCC:1FCC:1:-9 1FD8:1FD9:1:-8 1FDA:1FDB:1:-100 1FE8:1FE9:1:-8
    1FEA:1FEB:1:-112 1FEC:1FEC:1:-7 1FF8:1FF9:1:-128 1FFA:1FFB:1:-126 1FFC:1FFC:1:-9
    2126:2126:1:-7517 212A:212A:1:-8383 212B:212B:1:-8262 2132:2132:1:28 2160:216F:1:16
    2183:2183:1:1 24B6:24CF:1:26 2C00:2C2F:1:48 2C60:2C60:1:1 2C62:2C62:1:-10743
    2C63:2C63:1:-3814 2C64:2C64:1:-10727 2C67:2C6B:2:1 2C6D:2C6D:1:-10780 2C6E:2C6E:1:-10749
    2C6F:2C6F:1:-10783 2C70:2C70:1:-10782 2C72:2C72:1:1 2C75:2C75:1:1 2C7E:2C7F:1:-10815
    2C80:2CE2:2:1 2CEB:2CED:2:1 2CF2:2CF2:1:1 A640:A66C:2:1 A680:A69A:2:1 A722:A72E:2:1
    A732:A76E:2:1 A779:A77B:2:1 A77D:A77D:1:-35332 A77E:A786:2:1 A78B:A78B:1:1
    A78D:A78D:1:-42280 A790:A792:2:1 A796:A7A8:2:1 A7AA:A7AA:1:-42308 A7AB:A7AB:1:-42319
    A7AC:A7AC:1:-42315 A7AD:A7AD:1:-42305 A7AE:A7AE:1:-42308 A7B0:A7B0:1:-42258
    A7B1:A7B1:1:-42282 A7B2:A7B2:1:-42261 A7B3:A7B3:1:928 A7B4:A7C2:2:1 A7C4:A7C4:1:-48
    A7C5:A7C5:1:-42307 A7C6:A7C6:1:-35384 A7C7:A7C9:2:1 A7D0:A7D0:1:1 A7D6:A7D8:2:1
    A7F5:A7F5:1:1 FF21:FF3A:1:32 10400:10427:1:40 104B0:104D3:1:40 10570:1057A:1:39
    1057C:1058A:1:39 1058C:10592:1:39 10594:10595:1:39 10C80:10CB2:1:64 118A0:118BF:1:32
    16E40:16E5F:1:32 1E900:1E921:1:34").map fun
    | [a, b, s, d] => (hexValue a, hexValue b, hexValue s, intValue d)
    | _ => (0, 0, 1, 0)

/-- The case-ignorable code points. -/
def caseIgnorableRanges : List (Nat × Nat) := readRanges
    "27:27 2E:2E 3A:3A 5E:5E 60:60 A8:A8 AD:AD AF:AF B4:B4 B7:B8 2B0:36F 374:375 37A:37A 384:385
    387:387 483:489 559:559 55F:55F 591:5BD 5BF:5BF 5C1:5C2 5C4:5C5 5C7:5C7 5F4:5F4 600:605
    610:61A 61C:61C 640:640 64B:65F 670:670 6D6:6DD 6DF:6E8 6EA:6ED 70F:70F 711:711 730:74A
    7A6:7B0 7EB:7F5 7FA:7FA 7FD:7FD 816:82D 859:85B 888:888 890:891 898:89F 8C9:902 93A:93A
    93C:93C 941:948 94D:94D 951:957 962:963 971:971 981:981 9BC:9BC 9C1:9C4 9CD:9CD 9E2:9E3
    9FE:9FE A01:A02 A3C:A3C A41:A42 A47:A48 A4B:A4D A51:A51 A70:A71 A75:A75 A81:A82 ABC:ABC
    AC1:AC5 AC7:AC8 ACD:ACD AE2:AE3 AFA:AFF B01:B01 B3C:B3C B3F:B3F B41:B44 B4D:B4D B55:B56
    B62:B63 B82:B82 BC0:BC0 BCD:BCD C00:C00 C04:C04 C3C:C3C C3E:C40 C46:C48 C4A:C4D C55:C56
    C62:C63 C81:C81 CBC:CBC CBF:CBF CC6:CC6 CCC:CCD CE2:CE3 D00:D01 D3B:D3C D41:D44 D4D:D4D
    D62:D63 D81:D81 DCA:DCA DD2:DD4 DD6:DD6 E31:E31 E34:E3A E46:E4E EB1:EB1 EB4:EBC EC6:EC6
    EC8:ECD F18:F19 F35:F35 F37:F37 F39:F39 F71:F7E F80:F84 F86:F87 F8D:F97 F99:FBC FC6:FC6
    102D:1030 1032:1037 1039:103A 103D:103E 1058:1059 105E:1060 1071:1074 1082:1082 1085:1086
    108D:108D 109D:109D 10FC:10FC 135D:135F 1712:1714 1732:1733 1752:1753 1772:1773 17B4:17B5
    17B7:17BD 17C6:17C6 17C9:17D3 17D7:17D7 17DD:17DD 180B:180F 1843:1843 1885:1886 18A9:18A9
    1920:1922 1927:1928 1932:1932 1939:193B 1A17:1A18 1A1B:1A1B 1A56:1A56 1A58:1A5E 1A60:1A60
    1A62:1A62 1A65:1A6C 1A73:1A7C 1A7F:1A7F 1AA7:1AA7 1AB0:1ACE 1B00:1B03 1B34:1B34 1B36:1B3A
    1B3C:1B3C 1B42:1B42 1B6B:1B73 1B80:1B81 1BA2:1BA5 1BA8:1BA9 1BAB:1BAD 1BE6:1BE6 1BE8:1BE9
    1BED:1BED 1BEF:1BF1 1C2C:1C33 1C36:1C37 1C78:1C7D 1CD0:1CD2 1CD4:1CE0 1CE2:1CE8 1CED:1CED
    1CF4:1CF4 1CF8:1CF9 1D2C:1D6A 1D78:1D78 1D9B:1DFF 1FBD:1FBD 1FBF:1FC1 1FCD:1FCF 1FDD:1FDF
    1FED:1FEF 1FFD:1FFE 200B:200F 2018:2019 2024:2024 2027:2027 202A:202E 2060:2064 2066:206F
    2071:2071 207F:207F 2090:209C 20D0:20F0 2C7C:2C7D 2CEF:2CF1 2D6F:2D6F 2D7F:2D7F 2DE0:2DFF
    2E2F:2E2F 3005:3005 302A:302D 3031:3035 303B:303B 3099:309E 30FC:30FE A015:A015 A4F8:A4FD
    A60C:A60C A66F:A672 A674:A67D A67F:A67F A69C:A69F A6F0:A6F1 A700:A721 A770:A770 A788:A78A
    A7F2:A7F4 A7F8:A7F9 A802:A802 A806:A806 A80B:A80B A825:A826 A82C:A82C A8C4:A8C5 A8E0:A8F1
    A8FF:A8FF A926:A92D A947:A951 A980:A982 A9B3:A9B3 A9B6:A9B9 A9BC:A9BD A9CF:A9CF A9E5:A9E6
    AA29:AA2E AA31:AA32 AA35:AA36 AA43:AA43 AA4C:AA4C AA70:AA70 AA7C:AA7C AAB0:AAB0 AAB2:AAB4
    AAB7:AAB8 AABE:AABF AAC1:AAC1 AADD:AADD AAEC:AAED AAF3:AAF4 AAF6:AAF6 AB5B:AB5F AB69:AB6B
    ABE5:ABE5 ABE8:ABE8 ABED:ABED FB1E:FB1E FBB2:FBC2 FE00:FE0F FE13:FE13 FE20:FE2F FE52:FE52
    FE55:FE55 FEFF:FEFF FF07:FF07 FF0E:FF0E FF1A:FF1A FF3E:FF3E FF40:FF40 FF70:FF70 FF9E:FF9F
    FFE3:FFE3 FFF9:FFFB 101FD:101FD 102E0:102E0 10376:1037A 10780:10785 10787:107B0 107B2:107BA
    10A01:10A03 10A05:10A06 10A0C:10A0F 10A38:10A3A 10A3F:10A3F 10AE5:10AE6 10D24:10D27
    10EAB:10EAC 10F46:10F50 10F82:10F85 11001:11001 11038:11046 11070:11070 11073:11074
    1107F:11081 110B3:110B6 110B9:110BA 110BD:110BD 110C2:110C2 110CD:110CD 11100:11102
    11127:1112B 1112D:11134 11173:11173 11180:11181 111B6:111BE 111C9:111CC 111CF:111CF
    1122F:11231 11234:11234 11236:11237 1123E:1123E 112DF:112DF 112E3:112EA 11300:11301
    1133B:1133C 11340:11340 11366:1136C 11370:11374 11438:1143F 11442:11444 11446:11446
    1145E:1145E 114B3:114B8 114BA:114BA 114BF:114C0 114C2:114C3 115B2:115B5 115BC:115BD
    115BF:115C0 115DC:115DD 11633:1163A 1163D:1163D 1163F:11640 116AB:116AB 116AD:116AD
    116B0:116B5 116B7:116B7 1171D:1171F 11722:11725 11727:1172B 1182F:11837 11839:1183A
    1193B:1193C 1193E:1193E 11943:11943 119D4:119D7 119DA:119DB 119E0:119E0 11A01:11A0A
    11A33:11A38 11A3B:11A3E 11A47:11A47 11A51:11A56 11A59:11A5B 11A8A:11A96 11A98:11A99
    11C30:11C36 11C38:11C3D 11C3F:11C3F 11C92:11CA7 11CAA:11CB0 11CB2:11CB3 11CB5:11CB6
    11D31:11D36 11D3A:11D3A 11D3C:11D3D 11D3F:11D45 11D47:11D47 11D90:11D91 11D95:11D95
    11D97:11D97 11EF3:11EF4 13430:13438 16AF0:16AF4 16B30:16B36 16B40:16B43 16F4F:16F4F
    16F8F:16F9F 16FE0:16FE1 16FE3:16FE4 1AFF0:1AFF3 1AFF5:1AFFB 1AFFD:1AFFE 1BC9D:1BC9E
    1BCA0:1BCA3 1CF00:1CF2D 1CF30:1CF46 1D167:1D169 1D173:1D182 1D185:1D18B 1D1AA:1D1AD
    1D242:1D244 1DA00:1DA36 1DA3B:1DA6C 1DA75:1DA75 1DA84:1DA84 1DA9B:1DA9F 1DAA1:1DAAF
    1E000:1E006 1E008:1E018 1E01B:1E021 1E023:1E024 1E026:1E02A 1E130:1E13D 1E2AE:1E2AE
    1E2EC:1E2EF 1E8D0:1E8D6 1E944:1E94B 1F3FB:1F3FF E0001:E0001 E0020:E007F E0100:E01EF"

/-- The cased code points that are not case-ignorable.  The Final_Sigma test
skips the case-ignorable ones first, so these are the only cased ones it
reads. -/
def casedRanges : List (Nat × Nat) := readRanges
    "41:5A 61:7A AA:AA B5:B5 BA:BA C0:D6 D8:F6 F8:1BA 1BC:1BF 1C4:293 295:2AF 370:373 376:377
    37B:37D 37F:37F 386:386 388:38A 38C:38C 38E:3A1 3A3:3F5 3F7:481 48A:52F 531:556 560:588
    10A0:10C5 10C7:10C7 10CD:10CD 10D0:10FA 10FD:10FF 13A0:13F5 13F8:13FD 1C80:1C88 1C90:1CBA
    1CBD:1CBF 1D00:1D2B 1D6B:1D77 1D79:1D9A 1E00:1F15 1F18:1F1D 1F20:1F45 1F48:1F4D 1F50:1F57
    1F59:1F59 1F5B:1F5B 1F5D:1F5D 1F5F:1F7D 1F80:1FB4 1FB6:1FBC 1FBE:1FBE 1FC2:1FC4 1FC6:1FCC
    1FD0:1FD3 1FD6:1FDB 1FE0:1FEC 1FF2:1FF4 1FF6:1FFC 2102:2102 2107:2107 210A:2113 2115:2115
    2119:211D 2124:2124 2126:2126 2128:2128 212A:212D 212F:2134 2139:2139 213C:213F 2145:2149
    214E:214E 2160:217F 2183:2184 24B6:24E9 2C00:2C7B 2C7E:2CE4 2CEB:2CEE 2CF2:2CF3 2D00:2D25
    2D27:2D27 2D2D:2D2D A640:A66D A680:A69B A722:A76F A771:A787 A78B:A78E A790:A7CA A7D0:A7D1
    A7D3:A7D3 A7D5:A7D9 A7F5:A7F6 A7FA:A7FA AB30:AB5A AB60:AB68 AB70:ABBF FB00:FB06 FB13:FB17
    FF21:FF3A FF41:FF5A 10400:1044F 104B0:104D3 104D8:104FB 10570:1057A 1057C:1058A 1058C:10592
    10594:10595 10597:105A1 105A3:105B1 105B3:105B9 105BB:105BC 10C80:10CB2 10CC0:10CF2
    118A0:118DF 16E40:16E7F 1D400:1D454 1D456:1D49C 1D49E:1D49F 1D4A2:1D4A2 1D4A5:1D4A6
    1D4A9:1D4AC 1D4AE:1D4B9 1D4BB:1D4BB 1D4BD:1D4C3 1D4C5:1D505 1D507:1D50A 1D50D:1D514
    1D516:1D51C 1D51E:1D539 1D53B:1D53E 1D540:1D544 1D546:1D546 1D54A:1D550 1D552:1D6A5
    1D6A8:1D6C0 1D6C2:1D6DA 1D6DC:1D6FA 1D6FC:1D714 1D716:1D734 1D736:1D74E 1D750:1D76E
    1D770:1D788 1D78A:1D7A8 1D7AA:1D7C2 1D7C4:1D7CB 1DF00:1DF09 1DF0B:1DF1E 1E900:1E943
    1F130:1F149 1F150:1F169 1F170:1F189"

/-! ### Digits and word characters -/

/-- `Py_UNICODE_TODECIMAL`: the value of a decimal digit, `none` for any
other character. -/
def decimalDigit? (c : Char) : Option Nat :=
  if c.toNat < 128 then
    if c.isDigit then some (c.toNat - '0'.toNat) else none
  else
    decimalStarts.findSome? fun z =>
      if z ≤ c.toNat && c.toNat < z + 10 then some (c.toNat - z) else none

/-- `str.isdecimal` on one character: what `\d` of a `str` pattern matches. -/
def isDecimal (c : Char) : Bool := (decimalDigit? c).isSome

/-- `str.isalnum` on one character. -/
def isAlnum (c : Char) : Bool :=
  if c.toNat < 128 then c.isAlphanum else inRanges alnumRanges c.toNat

/-- What `\w` of a `str` pattern matches: `isalnum` or `_`. -/
def isWordChar (c : Char) : Bool := isAlnum c || c == '_'

/-! ### Lowercase -/

/-- The full lowercase mapping of one character, `_PyUnicode_ToLowerFull`.
`İ` is the one character that lowers to two. -/
def lowerChar (c : Char) : List Char :=
  if c.toNat < 128 then [c.toLower]
  else if c.toNat = 0x130 then ['i', Char.ofNat 0x307]
  else
    match lowerRuns.find? fun r =>
        r.1 ≤ c.toNat && c.toNat ≤ r.2.1 && (c.toNat - r.1) % r.2.2.1 == 0 with
    | some r => [Char.ofNat (c.toNat + r.2.2.2).toNat]
    | none => [c]

/-- `_PyUnicode_IsCaseIgnorable` -/
def isCaseIgnorable (c : Char) : Bool := inRanges caseIgnorableRanges c.toNat

/-- A cased character that is not case-ignorable. -/
def isCasedLetter (c : Char) : Bool := inRanges casedRanges c.toNat

/-- `handle_capital_sigma`: `Σ` is final when a cased letter comes before it
and none after it, skipping case-ignorable characters on both sides.
`before` is the text before it, nearest first. -/
def finalSigma (before after : List Char) : Bool :=
  (before.dropWhile isCaseIgnorable).head?.any isCasedLetter &&
    !(after.dropWhile isCaseIgnorable).head?.any isCasedLetter

/-! ### ASCII -/

theorem toNat_lt_of_isDigit {c : Char} (h : c.isDigit) : c.toNat < 58 := by
  simp only [Char.isDigit, Bool.and_eq_true, decide_eq_true_eq] at h
  have : c.toNat ≤ 57 := h.2
  omega

/-- An ASCII digit has its usual value. -/
theorem decimalDigit?_of_isDigit {c : Char} (h : c.isDigit) :
    decimalDigit? c = some (c.toNat - '0'.toNat) := by
  rw [decimalDigit?, if_pos (by have := toNat_lt_of_isDigit h; omega), if_pos h]

/-- The decimal digits of ASCII are its digits. -/
theorem isDigit_of_isDecimal {c : Char} (h : isDecimal c) (hc : c.toNat < 128) : c.isDigit := by
  rw [isDecimal, decimalDigit?, if_pos hc] at h
  by_contra hd
  rw [if_neg hd] at h
  cases h

theorem isDecimal_of_isDigit {c : Char} (h : c.isDigit) : isDecimal c := by
  rw [isDecimal, decimalDigit?_of_isDigit h]
  rfl

/-- Every decimal digit has a value below ten. -/
theorem decimalDigit?_lt_ten {c : Char} {d : Nat} (h : decimalDigit? c = some d) : d < 10 := by
  unfold decimalDigit? at h
  split at h
  · split at h
    · rename_i hd
      simp only [Char.isDigit, Bool.and_eq_true, decide_eq_true_eq] at hd
      have h1 : 48 ≤ c.toNat := hd.1
      have h2 : c.toNat ≤ 57 := hd.2
      cases h
      have h0 : '0'.toNat = 48 := rfl
      omega
    · cases h
  · obtain ⟨z, -, hz⟩ := List.exists_of_findSome?_eq_some h
    split at hz
    · rename_i hzc
      cases hz
      simp only [Bool.and_eq_true, decide_eq_true_eq] at hzc
      omega
    · cases hz

/-- Below ASCII's end, lowering is `Char.toLower`. -/
theorem lowerChar_of_lt {c : Char} (h : c.toNat < 128) : lowerChar c = [c.toLower] :=
  if_pos h

end WebrtcAnalysis
