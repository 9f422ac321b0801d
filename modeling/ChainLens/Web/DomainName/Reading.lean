import ChainLens.Text.SpanTable

/-!
What the characters of a domain name are read as. Most characters are kept. Capital letters are read
as small ones and variants of characters as the plain ones; some characters that cannot be seen are
left out, and some characters may not stand in a name at all.
-/

namespace ChainLens.Web.DomainName

open Text

inductive Reading
  | refused
  | omitted
  /-- The characters of the span that begins with a code point, each as the one in its place. -/
  | onto (first : Nat)
  /-- The first, the third and so on as the characters after them. -/
  | paired
  /-- Each as a text of its own. -/
  | each (texts : Array (List Char))
  deriving DecidableEq, Repr

namespace Reading

/-- A reading is written as a letter, and for spans and texts what the characters are read as. -/
def read? : List Char → Option Reading
  | ['x'] => some .refused
  | ['o'] => some .omitted
  | 'm' :: digits => (SpanTable.number? digits).map .onto
  | ['a'] => some .paired
  | 'e' :: texts => (SpanTable.entries? texts).map .each
  | _ => none

/-- What a character of a span is read as, if it may stand in a name. -/
def of (span : Span Reading) (c : Char) : Option (List Char) :=
  let place := c.toNat - span.first
  match span.value with
  | .refused => none
  | .omitted => some []
  | .onto first => some [Char.ofNat (first + place)]
  | .paired => some [if place % 2 = 0 then Char.ofNat (c.toNat + 1) else c]
  | .each texts => texts[place]?

/-- The readings of the characters that are not kept, as they follow from version 17 of Unicode. -/
def table : SpanTable Reading := .read read? "
  41-5Am61 80-9Fx A0e20 A8e20+308 AAe61 ADo AFe20+304 B2-B5e32,33,20+301,3BC B8-BAe20+327,31,6F
  BC-BEe31+2044+34,31+2044+32,33+2044+34 C0-D6mE0 D8-DEmF8 100-12Ea 130e69+307 132-133e69+6A,69+6A
  134-136a 139-13Da 13F-140e6C+B7,6C+B7 141-147a 149e2BC+6E 14A-176a 178eFF 179-17Da 17Fe73 181e253
  182-184a 186e254 187a 189-18Ae256,257 18Ba 18E-190e1DD,259,25B 191a 193-194e260,263
  196-197e269,268 198a 19C-19De26F,272 19Fe275 1A0-1A4a 1A6e280 1A7a 1A9e283 1ACa 1AEe288 1AFa
  1B1-1B2e28A,28B 1B3-1B5a 1B7e292 1B8a 1BCa
  1C4-1CCe64+17E,64+17E,64+17E,6C+6A,6C+6A,6C+6A,6E+6A,6E+6A,6E+6A 1CD-1DBa 1DE-1EEa
  1F1-1F3e64+7A,64+7A,64+7A 1F4a 1F6-1F7e195,1BF 1F8-21Ea 220e19E 222-232a 23Ae2C65 23Ba
  23D-23Ee19A,2C66 241a 243-245e180,289,28C 246-24Ea 2B0-2B8e68,266,6A,72,279,27B,281,77,79
  2D8-2DDe20+306,20+307,20+30A,20+328,20+303,20+30B 2E0-2E4e263,6C,73,78,295 340-341e300,301
  343-345e313,308+301,3B9 34Fo 370-372a 374e2B9 376a 378-379x 37Ae20+3B9 37E-37Fe3B,3F3 380-383x
  384-387e20+301,20+308+301,3AC,B7 388-38Am3AD 38Bx 38Ce3CC 38Dx 38E-38Fe3CD,3CE 391-3A1m3B1 3A2x
  3A3-3ABm3C3 3CF-3D6e3D7,3B2,3B8,3C5,3CD,3CB,3C6,3C0 3D8-3EEa 3F0-3F2e3BA,3C1,3C3 3F4-3F5e3B8,3B5
  3F7a 3F9e3C3 3FAa 3FD-3FFm37B 400-40Fm450 410-42Fm430 460-480a 48A-4BEa 4C0e4CF 4C1-4CDa 4D0-52Ea
  530x 531-556m561 557-558x 587e565+582 58B-58Cx 590x 5C8-5CFx 5EB-5EEx 5F5-605x 61Cx
  675-678e627+674,648+674,6C7+674,64A+674 6DDx 70E-70Fx 74B-74Cx 7B2-7BFx 7FB-7FCx 82E-82Fx 83Fx
  85C-85Dx 85Fx 86B-86Fx 890-896x 8E2x
  958-95Fe915+93C,916+93C,917+93C,91C+93C,921+93C,922+93C,92B+93C,92F+93C 984x 98D-98Ex 991-992x
  9A9x 9B1x 9B3-9B5x 9BA-9BBx 9C5-9C6x 9C9-9CAx 9CF-9D6x 9D8-9DBx 9DC-9DDe9A1+9BC,9A2+9BC 9DEx
  9DFe9AF+9BC 9E4-9E5x 9FF-A00x A04x A0B-A0Ex A11-A12x A29x A31x A33eA32+A3C A34x A36eA38+A3C A37x
  A3A-A3Bx A3Dx A43-A46x A49-A4Ax A4E-A50x A52-A58x A59-A5BeA16+A3C,A17+A3C,A1C+A3C A5Dx A5EeA2B+A3C
  A5F-A65x A77-A80x A84x A8Ex A92x AA9x AB1x AB4x ABA-ABBx AC6x ACAx ACE-ACFx AD1-ADFx AE4-AE5x
  AF2-AF8x B00x B04x B0D-B0Ex B11-B12x B29x B31x B34x B3A-B3Bx B45-B46x B49-B4Ax B4E-B54x B58-B5Bx
  B5C-B5DeB21+B3C,B22+B3C B5Ex B64-B65x B78-B81x B84x B8B-B8Dx B91x B96-B98x B9Bx B9Dx BA0-BA2x
  BA5-BA7x BAB-BADx BBA-BBDx BC3-BC5x BC9x BCE-BCFx BD1-BD6x BD8-BE5x BFB-BFFx C0Dx C11x C29x
  C3A-C3Bx C45x C49x C4E-C54x C57x C5Bx C5E-C5Fx C64-C65x C70-C76x C8Dx C91x CA9x CB4x CBA-CBBx CC5x
  CC9x CCE-CD4x CD7-CDBx CDFx CE4-CE5x CF0x CF4-CFFx D0Dx D11x D45x D49x D50-D53x D64-D65x D80x D84x
  D97-D99x DB2x DBCx DBE-DBFx DC7-DC9x DCB-DCEx DD5x DD7x DE0-DE5x DF0-DF1x DF5-E00x E33eE4D+E32
  E3B-E3Ex E5C-E80x E83x E85x E8Bx EA4x EA6x EB3eECD+EB2 EBE-EBFx EC5x EC7x ECFx EDA-EDBx
  EDC-EDDeEAB+E99,EAB+EA1 EE0-EFFx F0CeF0B F43eF42+FB7 F48x F4DeF4C+FB7 F52eF51+FB7 F57eF56+FB7
  F5CeF5B+FB7 F69eF40+FB5 F6D-F70x F73eF71+F72
  F75-F79eF71+F74,FB2+F80,FB2+F71+F80,FB3+F80,FB3+F71+F80 F81eF71+F80 F93eF92+FB7 F98x F9DeF9C+FB7
  FA2eFA1+FB7 FA7eFA6+FB7 FACeFAB+FB7 FB9eF90+FB5 FBDx FCDx FDB-FFFx 10A0-10C5m2D00 10C6x 10C7e2D27
  10C8-10CCx 10CDe2D2D 10CE-10CFx 10FCe10DC 115F-1160o 1249x 124E-124Fx 1257x 1259x 125E-125Fx 1289x
  128E-128Fx 12B1x 12B6-12B7x 12BFx 12C1x 12C6-12C7x 12D7x 1311x 1316-1317x 135B-135Cx 137D-137Fx
  139A-139Fx 13F6-13F7x 13F8-13FDm13F0 13FE-13FFx 1680x 169D-169Fx 16F9-16FFx 1716-171Ex 1737-173Fx
  1754-175Fx 176Dx 1771x 1774-177Fx 17B4-17B5o 17DE-17DFx 17EA-17EFx 17FA-17FFx 180B-180Fo
  181A-181Fx 1879-187Fx 18AB-18AFx 18F6-18FFx 191Fx 192C-192Fx 193C-193Fx 1941-1943x 196E-196Fx
  1975-197Fx 19AC-19AFx 19CA-19CFx 19DB-19DDx 1A1C-1A1Dx 1A5Fx 1A7D-1A7Ex 1A8A-1A8Fx 1A9A-1A9Fx
  1AAE-1AAFx 1ADE-1ADFx 1AEC-1AFFx 1B4Dx 1BF4-1BFBx 1C38-1C3Ax 1C4A-1C4Cx
  1C80-1C88e432,434,43E,441,442,442,44A,463,A64B 1C89a 1C8B-1C8Fx 1C90-1CBAm10D0 1CBB-1CBCx
  1CBD-1CBFm10FD 1CC8-1CCFx 1CFB-1CFFx 1D2C-1D2Ee61,E6,62 1D30-1D32e64,65,1DD 1D33-1D3Am67
  1D3C-1D4De6F,223,70,72,74,75,77,61,250,251,1D02,62,64,65,259,25B,25C,67
  1D4F-1D5Ce6B,6D,14B,6F,254,1D16,1D17,70,74,75,1D1D,26F,76,1D25 1D5D-1D5Fm3B2
  1D60-1D6Ae3C6,3C7,69,72,75,76,3B2,3B3,3C1,3C6,3C7 1D78e43D
  1D9B-1DA3e252,63,255,F0,25C,66,25F,261,265 1DA4-1DA6m268 1DA7-1DADe1D7B,29D,26D,1D85,29F,271,270
  1DAE-1DB1m272 1DB2-1DBBe278,282,283,1AB,289,28A,1D1C,28B,28C,7A 1DBC-1DBEm290 1DBFe3B8 1E00-1E94a
  1E9A-1E9Be61+2BE,1E61 1E9EeDF 1EA0-1EFEa 1F08-1F0Fm1F00 1F16-1F17x 1F18-1F1Dm1F10 1F1E-1F1Fx
  1F28-1F2Fm1F20 1F38-1F3Fm1F30 1F46-1F47x 1F48-1F4Dm1F40 1F4E-1F4Fx 1F58x 1F59e1F51 1F5Ax 1F5Be1F53
  1F5Cx 1F5De1F55 1F5Ex 1F5Fe1F57 1F68-1F6Fm1F60 1F71e3AC 1F73e3AD 1F75e3AE 1F77e3AF 1F79e3CC
  1F7Be3CD 1F7De3CE 1F7E-1F7Fx 1F80-1F84e1F00+3B9,1F01+3B9,1F02+3B9,1F03+3B9,1F04+3B9
  1F85-1F89e1F05+3B9,1F06+3B9,1F07+3B9,1F00+3B9,1F01+3B9
  1F8A-1F8Ee1F02+3B9,1F03+3B9,1F04+3B9,1F05+3B9,1F06+3B9
  1F8F-1F93e1F07+3B9,1F20+3B9,1F21+3B9,1F22+3B9,1F23+3B9
  1F94-1F98e1F24+3B9,1F25+3B9,1F26+3B9,1F27+3B9,1F20+3B9
  1F99-1F9De1F21+3B9,1F22+3B9,1F23+3B9,1F24+3B9,1F25+3B9
  1F9E-1FA2e1F26+3B9,1F27+3B9,1F60+3B9,1F61+3B9,1F62+3B9
  1FA3-1FA7e1F63+3B9,1F64+3B9,1F65+3B9,1F66+3B9,1F67+3B9
  1FA8-1FAFe1F60+3B9,1F61+3B9,1F62+3B9,1F63+3B9,1F64+3B9,1F65+3B9,1F66+3B9,1F67+3B9
  1FB2-1FB4e1F70+3B9,3B1+3B9,3AC+3B9 1FB5x
  1FB7-1FC3e1FB6+3B9,1FB0,1FB1,1F70,3AC,3B1+3B9,20+313,3B9,20+313,20+342,20+308+342,1F74+3B9,3B7+3B9
  1FC4e3AE+3B9 1FC5x 1FC7-1FCFe1FC6+3B9,1F72,3AD,1F74,3AE,3B7+3B9,20+313+300,20+313+301,20+313+342
  1FD3e390 1FD4-1FD5x 1FD8-1FDBe1FD0,1FD1,1F76,3AF 1FDCx 1FDD-1FDFe20+314+300,20+314+301,20+314+342
  1FE3e3B0 1FE8-1FEFe1FE0,1FE1,1F7A,3CD,1FE5,20+308+300,20+308+301,60 1FF0-1FF1x
  1FF2-1FF4e1F7C+3B9,3C9+3B9,3CE+3B9 1FF5x
  1FF7-1FFEe1FF6+3B9,1F78,3CC,1F7C,3CE,3C9+3B9,20+301,20+314 1FFFx
  2000-200Ae20,20,20,20,20,20,20,20,20,20,20 200Bo 200E-200Fx 2011e2010 2017e20+333 2024-2026x
  2028-202Ex 202Fe20 2033-2034e2032+2032,2032+2032+2032 2036-2037e2035+2035,2035+2035+2035
  203Ce21+21 203Ee20+305 2047-2049e3F+3F,3F+21,21+3F 2057e2032+2032+2032+2032 205Fe20 2060-2064o
  2065-2069x 206A-206Fo 2070-2071e30,69 2072-2073x 2074-2079m34 207A-207Fe2B,2212,3D,28,29,6E
  2080-2089m30 208A-208Ee2B,2212,3D,28,29 208Fx 2090-2095e61,65,6F,78,259,68 2096-2099m6B
  209A-209Ce70,73,74 209D-209Fx 20A8e72+73 20C2-20CFx 20F1-20FFx
  2100-2103e61+2F+63,61+2F+73,63,B0+63 2105-2107e63+2F+6F,63+2F+75,25B
  2109-2113eB0+66,67,68,68,68,68,127,69,69,6C,6C 2115-2116e6E,6E+6F 2119-211Bm70 211C-211De72,72
  2120-2122e73+6D,74+65+6C,74+6D 2124e7A 2126e3C9 2128e7A 212A-212De6B,E5,62,63
  212F-2134e65,65,66,214E,6D,6F 2135-2138m5D0 2139e69 213B-2140e66+61+78,3C0,3B3,3B3,3C0,2211
  2145-2149e64,64,65,69,6A
  2150-2156e31+2044+37,31+2044+39,31+2044+31+30,31+2044+33,32+2044+33,31+2044+35,32+2044+35
  2157-215Ee33+2044+35,34+2044+35,31+2044+36,35+2044+36,31+2044+38,33+2044+38,35+2044+38,37+2044+38
  215F-2165e31+2044,69,69+69,69+69+69,69+76,76,76+69
  2166-216De76+69+69,76+69+69+69,69+78,78,78+69,78+69+69,6C,63
  216E-2175e64,6D,69,69+69,69+69+69,69+76,76,76+69
  2176-217Ee76+69+69,76+69+69+69,69+78,78,78+69,78+69+69,6C,63,64 217Fe6D 2183a 2189e30+2044+33
  218C-218Fx 222C-222De222B+222B,222B+222B+222B 222F-2230e222E+222E,222E+222E+222E
  2329-232Ae3008,3009 242A-243Fx 244B-245Fx 2460-2468m31
  2469-2475e31+30,31+31,31+32,31+33,31+34,31+35,31+36,31+37,31+38,31+39,32+30,28+31+29,28+32+29
  2476-247De28+33+29,28+34+29,28+35+29,28+36+29,28+37+29,28+38+29,28+39+29,28+31+30+29
  247E-2484e28+31+31+29,28+31+32+29,28+31+33+29,28+31+34+29,28+31+35+29,28+31+36+29,28+31+37+29
  2485-2487e28+31+38+29,28+31+39+29,28+32+30+29 2488-249Bx
  249C-24A4e28+61+29,28+62+29,28+63+29,28+64+29,28+65+29,28+66+29,28+67+29,28+68+29,28+69+29
  24A5-24ADe28+6A+29,28+6B+29,28+6C+29,28+6D+29,28+6E+29,28+6F+29,28+70+29,28+71+29,28+72+29
  24AE-24B5e28+73+29,28+74+29,28+75+29,28+76+29,28+77+29,28+78+29,28+79+29,28+7A+29 24B6-24CFm61
  24D0-24E9m61 24EAe30 2A0Ce222B+222B+222B+222B 2A74-2A76e3A+3A+3D,3D+3D,3D+3D+3D 2ADCe2ADD+338
  2B74-2B75x 2C00-2C2Fm2C30 2C60a 2C62-2C64e26B,1D7D,27D 2C67-2C6Ba 2C6D-2C70e251,271,250,252 2C72a
  2C75a 2C7C-2C7Fe6A,76,23F,240 2C80-2CE2a 2CEB-2CEDa 2CF2a 2CF4-2CF8x 2D26x 2D28-2D2Cx 2D2E-2D2Fx
  2D68-2D6Ex 2D6Fe2D61 2D71-2D7Ex 2D97-2D9Fx 2DA7x 2DAFx 2DB7x 2DBFx 2DC7x 2DCFx 2DD7x 2DDFx
  2E5E-2E7Fx 2E9Ax 2E9Fe6BCD 2EF3e9F9F 2EF4-2EFFx
  2F00-2F08e4E00,4E28,4E36,4E3F,4E59,4E85,4E8C,4EA0,4EBA
  2F09-2F12e513F,5165,516B,5182,5196,51AB,51E0,51F5,5200,529B
  2F13-2F1Be52F9,5315,531A,5338,5341,535C,5369,5382,53B6
  2F1C-2F25e53C8,53E3,56D7,571F,58EB,5902,590A,5915,5927,5973
  2F26-2F2Ee5B50,5B80,5BF8,5C0F,5C22,5C38,5C6E,5C71,5DDB
  2F2F-2F38e5DE5,5DF1,5DFE,5E72,5E7A,5E7F,5EF4,5EFE,5F0B,5F13
  2F39-2F41e5F50,5F61,5F73,5FC3,6208,6236,624B,652F,6534
  2F42-2F4Be6587,6597,65A4,65B9,65E0,65E5,66F0,6708,6728,6B20
  2F4C-2F54e6B62,6B79,6BB3,6BCB,6BD4,6BDB,6C0F,6C14,6C34
  2F55-2F5Ee706B,722A,7236,723B,723F,7247,7259,725B,72AC,7384
  2F5F-2F67e7389,74DC,74E6,7518,751F,7528,7530,758B,7592
  2F68-2F71e7676,767D,76AE,76BF,76EE,77DB,77E2,77F3,793A,79B8
  2F72-2F7Ae79BE,7A74,7ACB,7AF9,7C73,7CF8,7F36,7F51,7F8A
  2F7B-2F84e7FBD,8001,800C,8012,8033,807F,8089,81E3,81EA,81F3
  2F85-2F8De81FC,820C,821B,821F,826E,8272,8278,864D,866B
  2F8E-2F97e8840,884C,8863,897E,898B,89D2,8A00,8C37,8C46,8C55
  2F98-2FA0e8C78,8C9D,8D64,8D70,8DB3,8EAB,8ECA,8F9B,8FB0
  2FA1-2FAAe8FB5,9091,9149,91C6,91CC,91D1,9577,9580,961C,96B6
  2FAB-2FB3e96B9,96E8,9751,975E,9762,9769,97CB,97ED,97F3
  2FB4-2FBDe9801,98A8,98DB,98DF,9996,9999,99AC,9AA8,9AD8,9ADF
  2FBE-2FC6e9B25,9B2F,9B32,9B3C,9B5A,9CE5,9E75,9E7F,9EA5
  2FC7-2FD0e9EBB,9EC3,9ECD,9ED1,9EF9,9EFD,9F0E,9F13,9F20,9F3B 2FD1-2FD5e9F4A,9F52,9F8D,9F9C,9FA0
  2FD6-2FFFx 3000e20 3002e2E 3036e3012 3038-303Ae5341,5344,5345 3040x 3097-3098x
  309B-309Ce20+3099,20+309A 309Fe3088+308A 30FFe30B3+30C8 3100-3104x 3130x
  3131-3136e1100,1101,11AA,1102,11AC,11AD 3137-3139m1103 313A-313Fm11B0 3140e111A 3141-3143m1106
  3144e1121 3145-314Em1109 314F-3163m1161 3164o
  3165-316De1114,1115,11C7,11C8,11CC,11CE,11D3,11D7,11D9
  316E-3177e111C,11DD,11DF,111D,111E,1120,1122,1123,1127,1129 3178-317Cm112B
  317D-3183e1132,1136,1140,1147,114C,11F1,11F2 3184-3186m1157
  3187-318Ee1184,1185,1188,1191,1192,1194,119E,11A1 318Fx
  3192-319Fe4E00,4E8C,4E09,56DB,4E0A,4E2D,4E0B,7532,4E59,4E19,4E01,5929,5730,4EBA 31E6-31EFx
  3200-3207e28+1100+29,28+1102+29,28+1103+29,28+1105+29,28+1106+29,28+1107+29,28+1109+29,28+110B+29
  3208-320Fe28+110C+29,28+110E+29,28+110F+29,28+1110+29,28+1111+29,28+1112+29,28+AC00+29,28+B098+29
  3210-3217e28+B2E4+29,28+B77C+29,28+B9C8+29,28+BC14+29,28+C0AC+29,28+C544+29,28+C790+29,28+CC28+29
  3218-321Ee28+CE74+29,28+D0C0+29,28+D30C+29,28+D558+29,28+C8FC+29,28+C624+C804+29,28+C624+D6C4+29
  321Fx
  3220-3227e28+4E00+29,28+4E8C+29,28+4E09+29,28+56DB+29,28+4E94+29,28+516D+29,28+4E03+29,28+516B+29
  3228-322Fe28+4E5D+29,28+5341+29,28+6708+29,28+706B+29,28+6C34+29,28+6728+29,28+91D1+29,28+571F+29
  3230-3237e28+65E5+29,28+682A+29,28+6709+29,28+793E+29,28+540D+29,28+7279+29,28+8CA1+29,28+795D+29
  3238-323Fe28+52B4+29,28+4EE3+29,28+547C+29,28+5B66+29,28+76E3+29,28+4F01+29,28+8CC7+29,28+5354+29
  3240-3247e28+796D+29,28+4F11+29,28+81EA+29,28+81F3+29,554F,5E7C,6587,7B8F
  3250-325De70+74+65,32+31,32+32,32+33,32+34,32+35,32+36,32+37,32+38,32+39,33+30,33+31,33+32,33+33
  325E-3262e33+34,33+35,1100,1102,1103 3263-3265m1105 3266-3268e1109,110B,110C 3269-326Dm110E
  326E-3275eAC00,B098,B2E4,B77C,B9C8,BC14,C0AC,C544
  3276-327EeC790,CC28,CE74,D0C0,D30C,D558,CC38+ACE0,C8FC+C758,C6B0
  3280-3288e4E00,4E8C,4E09,56DB,4E94,516D,4E03,516B,4E5D
  3289-3292e5341,6708,706B,6C34,6728,91D1,571F,65E5,682A,6709
  3293-329Be793E,540D,7279,8CA1,795D,52B4,79D8,7537,5973
  329C-32A5e9069,512A,5370,6CE8,9805,4F11,5199,6B63,4E0A,4E2D
  32A6-32B5e4E0B,5DE6,53F3,533B,5B97,5B66,76E3,4F01,8CC7,5354,591C,33+36,33+37,33+38,33+39,34+30
  32B6-32BCe34+31,34+32,34+33,34+34,34+35,34+36,34+37
  32BD-32C3e34+38,34+39,35+30,31+6708,32+6708,33+6708,34+6708
  32C4-32CCe35+6708,36+6708,37+6708,38+6708,39+6708,31+30+6708,31+31+6708,31+32+6708,68+67
  32CD-32D4e65+72+67,65+76,6C+74+64,30A2,30A4,30A6,30A8,30AA
  32D5-32DDe30AB,30AD,30AF,30B1,30B3,30B5,30B7,30B9,30BB 32DE-32E3e30BD,30BF,30C1,30C4,30C6,30C8
  32E4-32E9m30CA 32EA-32EDe30D2,30D5,30D8,30DB 32EE-32F2m30DE 32F3-32F4e30E4,30E6 32F5-32FAm30E8
  32FB-32FEm30EF
  32FF-3303e4EE4+548C,30A2+30D1+30FC+30C8,30A2+30EB+30D5+30A1,30A2+30F3+30DA+30A2,30A2+30FC+30EB
  3304-3307e30A4+30CB+30F3+30B0,30A4+30F3+30C1,30A6+30A9+30F3,30A8+30B9+30AF+30FC+30C9
  3308-330Ce30A8+30FC+30AB+30FC,30AA+30F3+30B9,30AA+30FC+30E0,30AB+30A4+30EA,30AB+30E9+30C3+30C8
  330D-3311e30AB+30ED+30EA+30FC,30AC+30ED+30F3,30AC+30F3+30DE,30AE+30AC,30AE+30CB+30FC
  3312-3315e30AD+30E5+30EA+30FC,30AE+30EB+30C0+30FC,30AD+30ED,30AD+30ED+30B0+30E9+30E0
  3316-3318e30AD+30ED+30E1+30FC+30C8+30EB,30AD+30ED+30EF+30C3+30C8,30B0+30E9+30E0
  3319-331Ce30B0+30E9+30E0+30C8+30F3,30AF+30EB+30BC+30A4+30ED,30AF+30ED+30FC+30CD,30B1+30FC+30B9
  331D-3320e30B3+30EB+30CA,30B3+30FC+30DD,30B5+30A4+30AF+30EB,30B5+30F3+30C1+30FC+30E0
  3321-3326e30B7+30EA+30F3+30B0,30BB+30F3+30C1,30BB+30F3+30C8,30C0+30FC+30B9,30C7+30B7,30C9+30EB
  3327-3329e30C8+30F3,30CA+30CE,30CE+30C3+30C8
  332A-332Ce30CF+30A4+30C4,30D1+30FC+30BB+30F3+30C8,30D1+30FC+30C4
  332D-3331e30D0+30FC+30EC+30EB,30D4+30A2+30B9+30C8+30EB,30D4+30AF+30EB,30D4+30B3,30D3+30EB
  3332-3335e30D5+30A1+30E9+30C3+30C9,30D5+30A3+30FC+30C8,30D6+30C3+30B7+30A7+30EB,30D5+30E9+30F3
  3336-333Ae30D8+30AF+30BF+30FC+30EB,30DA+30BD,30DA+30CB+30D2,30D8+30EB+30C4,30DA+30F3+30B9
  333B-333De30DA+30FC+30B8,30D9+30FC+30BF,30DD+30A4+30F3+30C8
  333E-3340e30DC+30EB+30C8,30DB+30F3,30DD+30F3+30C9
  3341-3345e30DB+30FC+30EB,30DB+30FC+30F3,30DE+30A4+30AF+30ED,30DE+30A4+30EB,30DE+30C3+30CF
  3346-3349e30DE+30EB+30AF,30DE+30F3+30B7+30E7+30F3,30DF+30AF+30ED+30F3,30DF+30EA
  334A-334Be30DF+30EA+30D0+30FC+30EB,30E1+30AC
  334C-334Ee30E1+30AC+30C8+30F3,30E1+30FC+30C8+30EB,30E4+30FC+30C9
  334F-3353e30E4+30FC+30EB,30E6+30A2+30F3,30EA+30C3+30C8+30EB,30EA+30E9,30EB+30D4+30FC
  3354-3359e30EB+30FC+30D6+30EB,30EC+30E0,30EC+30F3+30C8+30B2+30F3,30EF+30C3+30C8,30+70B9,31+70B9
  335A-3363e32+70B9,33+70B9,34+70B9,35+70B9,36+70B9,37+70B9,38+70B9,39+70B9,31+30+70B9,31+31+70B9
  3364-336Be31+32+70B9,31+33+70B9,31+34+70B9,31+35+70B9,31+36+70B9,31+37+70B9,31+38+70B9,31+39+70B9
  336C-3374e32+30+70B9,32+31+70B9,32+32+70B9,32+33+70B9,32+34+70B9,68+70+61,64+61,61+75,62+61+72
  3375-337Ee6F+76,70+63,64+6D,64+6D+32,64+6D+33,69+75,5E73+6210,662D+548C,5927+6B63,660E+6CBB
  337F-3388e682A+5F0F+4F1A+793E,70+61,6E+61,3BC+61,6D+61,6B+61,6B+62,6D+62,67+62,63+61+6C
  3389-3393e6B+63+61+6C,70+66,6E+66,3BC+66,3BC+67,6D+67,6B+67,68+7A,6B+68+7A,6D+68+7A,67+68+7A
  3394-339Fe74+68+7A,3BC+6C,6D+6C,64+6C,6B+6C,66+6D,6E+6D,3BC+6D,6D+6D,63+6D,6B+6D,6D+6D+32
  33A0-33A9e63+6D+32,6D+32,6B+6D+32,6D+6D+33,63+6D+33,6D+33,6B+6D+33,6D+2215+73,6D+2215+73+32,70+61
  33AA-33B1e6B+70+61,6D+70+61,67+70+61,72+61+64,72+61+64+2215+73,72+61+64+2215+73+32,70+73,6E+73
  33B2-33BFe3BC+73,6D+73,70+76,6E+76,3BC+76,6D+76,6B+76,6D+76,70+77,6E+77,3BC+77,6D+77,6B+77,6D+77
  33C0-33C1e6B+3C9,6D+3C9 33C2x 33C3-33C6e62+71,63+63,63+64,63+2215+6B+67 33C7x
  33C8-33D4e64+62,67+79,68+61,68+70,69+6E,6B+6B,6B+6D,6B+74,6C+6D,6C+6E,6C+6F+67,6C+78,6D+62
  33D5-33D7e6D+69+6C,6D+6F+6C,70+68 33D8x
  33D9-33E3e70+70+6D,70+72,73+72,73+76,77+62,76+2215+6D,61+2215+6D,31+65E5,32+65E5,33+65E5,34+65E5
  33E4-33ECe35+65E5,36+65E5,37+65E5,38+65E5,39+65E5,31+30+65E5,31+31+65E5,31+32+65E5,31+33+65E5
  33ED-33F4e31+34+65E5,31+35+65E5,31+36+65E5,31+37+65E5,31+38+65E5,31+39+65E5,32+30+65E5,32+31+65E5
  33F5-33FCe32+32+65E5,32+33+65E5,32+34+65E5,32+35+65E5,32+36+65E5,32+37+65E5,32+38+65E5,32+39+65E5
  33FD-33FFe33+30+65E5,33+31+65E5,67+61+6C A48D-A48Fx A4C7-A4CFx A62C-A63Fx A640-A66Ca A680-A69Aa
  A69C-A69De44A,44C A6F8-A6FFx A722-A72Ea A732-A76Ea A770eA76F A779-A77Ba A77De1D79 A77E-A786a A78Ba
  A78De265 A790-A792a A796-A7A8a A7AA-A7AEe266,25C,261,26C,26A A7B0-A7B3e29E,287,29D,AB53 A7B4-A7C2a
  A7C4-A7C6eA794,282,1D8E A7C7-A7C9a A7CBe264 A7CC-A7DAa A7DCe19B A7DD-A7F0x A7F1-A7F4e73,63,66,71
  A7F5a A7F8-A7F9e127,153 A82D-A82Fx A83A-A83Fx A878-A87Fx A8C6-A8CDx A8DA-A8DFx A954-A95Ex
  A97D-A97Fx A9CEx A9DA-A9DDx A9FFx AA37-AA3Fx AA4E-AA4Fx AA5A-AA5Bx AAC3-AADAx AAF7-AB00x
  AB07-AB08x AB0F-AB10x AB17-AB1Fx AB27x AB2Fx AB5C-AB5FeA727,AB37,26B,AB52 AB69e28D AB6C-AB6Fx
  AB70-ABBFm13A0 ABEE-ABEFx ABFA-ABFFx D7A4-D7AFx D7C7-D7CAx D7FC-F8FFx
  F900-F908e8C48,66F4,8ECA,8CC8,6ED1,4E32,53E5,9F9C,9F9C
  F909-F912e5951,91D1,5587,5948,61F6,7669,7F85,863F,87BA,88F8
  F913-F91Be908F,6A02,6D1B,70D9,73DE,843D,916A,99F1,4E82
  F91C-F925e5375,6B04,721B,862D,9E1E,5D50,6FEB,85CD,8964,62C9
  F926-F92Ee81D8,881F,5ECA,6717,6D6A,72FC,90CE,4F86,51B7
  F92F-F938e52DE,64C4,6AD3,7210,76E7,8001,8606,865C,8DEF,9732
  F939-F941e9B6F,9DFA,788C,797F,7DA0,83C9,9304,9E7F,8AD6
  F942-F94Be58DF,5F04,7C60,807E,7262,78CA,8CC2,96F7,58D8,5C62
  F94C-F954e6A13,6DDA,6F0F,7D2F,7E37,964B,52D2,808B,51DC
  F955-F95Ee51CC,7A1C,7DBE,83F1,9675,8B80,62CF,6A02,8AFE,4E39
  F95F-F967e5BE7,6012,7387,7570,5317,78FB,4FBF,5FA9,4E0D
  F968-F971e6CCC,6578,7D22,53C3,585E,7701,8449,8AAA,6BBA,8FB0
  F972-F97Ae6C88,62FE,82E5,63A0,7565,4EAE,5169,51C9,6881
  F97B-F984e7CE7,826F,8AD2,91CF,52F5,5442,5973,5EEC,65C5,6FFE
  F985-F98De792A,95AD,9A6A,9E97,9ECE,529B,66C6,6B77,8F62
  F98E-F997e5E74,6190,6200,649A,6F23,7149,7489,79CA,7DF4,806F
  F998-F9A0e8F26,84EE,9023,934A,5217,52A3,54BD,70C8,88C2
  F9A1-F9AAe8AAA,5EC9,5FF5,637B,6BAE,7C3E,7375,4EE4,56F9,5BE7
  F9AB-F9B3e5DBA,601C,73B2,7469,7F9A,8046,9234,96F6,9748
  F9B4-F9BDe9818,4F8B,79AE,91B4,96B8,60E1,4E86,50DA,5BEE,5C3F
  F9BE-F9C6e6599,6A02,71CE,7642,84FC,907C,9F8D,6688,962E
  F9C7-F9D0e5289,677B,67F3,6D41,6E9C,7409,7559,786B,7D10,985E
  F9D1-F9D9e516D,622E,9678,502B,5D19,6DEA,8F2A,5F8B,6144
  F9DA-F9E3e6817,7387,9686,5229,540F,5C65,6613,674E,68A8,6CE5
  F9E4-F9ECe7406,75E2,7F79,88CF,88E1,91CC,96E2,533F,6EBA
  F9ED-F9F6e541D,71D0,7498,85FA,96A3,9C57,9E9F,6797,6DCB,81E8
  F9F7-F9FFe7ACB,7B20,7C92,72C0,7099,8B58,4EC0,8336,523A
  FA00-FA09e5207,5EA6,62D3,7CD6,5B85,6D1E,66B4,8F3B,884C,964D FA0A-FA0De898B,5ED3,5140,55C0
  FA10e585A FA12e6674 FA15-FA1Ee51DE,732A,76CA,793C,795E,7965,798F,9756,7CBE,7FBD FA20e8612
  FA22e8AF8 FA25-FA26e9038,90FD FA2A-FA32e98EF,98FC,9928,9DB4,90DE,96B7,4FAE,50E7,514D
  FA33-FA3Ce52C9,52E4,5351,559D,5606,5668,5840,58A8,5C64,5C6E
  FA3D-FA45e6094,6168,618E,61F2,654F,65E2,6691,6885,6D77
  FA46-FA4Fe6E1A,6F22,716E,722B,7422,7891,793E,7949,7948,7950
  FA50-FA58e7956,795D,798D,798E,7A40,7A81,7BC0,7DF4,7E09
  FA59-FA62e7E41,7F72,8005,81ED,8279,8279,8457,8910,8996,8B01
  FA63-FA6De8B39,8CD3,8D08,8FB6,9038,96E3,97FF,983B,6075,242EE,8218 FA6E-FA6Fx
  FA70-FA78e4E26,51B5,5168,4F80,5145,5180,52C7,52FA,559D
  FA79-FA82e5555,5599,55E2,585A,58B3,5944,5954,5A62,5B28,5ED2
  FA83-FA8Be5ED9,5F69,5FAD,60D8,614E,6108,618E,6160,61F2
  FA8C-FA95e6234,63C4,641C,6452,6556,6674,6717,671B,6756,6B79
  FA96-FA9Ee6BBA,6D41,6EDB,6ECB,6F22,701E,716E,77A7,7235
  FA9F-FAA8e72AF,732A,7471,7506,753B,761D,761F,76CA,76DB,76F4
  FAA9-FAB1e774A,7740,78CC,7AB1,7BC0,7C7B,7D5B,7DF4,7F3E
  FAB2-FABBe8005,8352,83EF,8779,8941,8986,8996,8ABF,8AF8,8ACB
  FABC-FAC4e8B01,8AFE,8AED,8B39,8B8A,8D08,8F38,9072,9199
  FAC5-FACEe9276,967C,96E3,9756,97DB,97FF,980B,983B,9B12,9F9C
  FACF-FAD9e2284A,22844,233D5,3B9D,4018,4039,25249,25CD0,27ED3,9F43,9F8E FADA-FAFFx
  FB00-FB06e66+66,66+69,66+6C,66+66+69,66+66+6C,73+74,73+74 FB07-FB12x
  FB13-FB17e574+576,574+565,574+56B,57E+576,574+56D FB18-FB1Cx FB1De5D9+5B4
  FB1F-FB23e5F2+5B7,5E2,5D0,5D3,5D4 FB24-FB26m5DB FB27-FB2Ce5E8,5EA,2B,5E9+5C1,5E9+5C2,5E9+5BC+5C1
  FB2D-FB32e5E9+5BC+5C2,5D0+5B7,5D0+5B8,5D0+5BC,5D1+5BC,5D2+5BC
  FB33-FB36e5D3+5BC,5D4+5BC,5D5+5BC,5D6+5BC FB37x FB38-FB3Ce5D8+5BC,5D9+5BC,5DA+5BC,5DB+5BC,5DC+5BC
  FB3Dx FB3Ee5DE+5BC FB3Fx FB40-FB41e5E0+5BC,5E1+5BC FB42x FB43-FB44e5E3+5BC,5E4+5BC FB45x
  FB46-FB4Be5E6+5BC,5E7+5BC,5E8+5BC,5E9+5BC,5EA+5BC,5D5+5B9
  FB4C-FB52e5D1+5BF,5DB+5BF,5E4+5BF,5D0+5DC,671,671,67B
  FB53-FB5De67B,67B,67B,67E,67E,67E,67E,680,680,680,680
  FB5E-FB69e67A,67A,67A,67A,67F,67F,67F,67F,679,679,679,679
  FB6A-FB74e6A4,6A4,6A4,6A4,6A6,6A6,6A6,6A6,684,684,684
  FB75-FB80e684,683,683,683,683,686,686,686,686,687,687,687
  FB81-FB8Be687,68D,68D,68C,68C,68E,68E,688,688,698,698
  FB8C-FB97e691,691,6A9,6A9,6A9,6A9,6AF,6AF,6AF,6AF,6B3,6B3
  FB98-FBA2e6B3,6B3,6B1,6B1,6B1,6B1,6BA,6BA,6BB,6BB,6BB
  FBA3-FBAEe6BB,6C0,6C0,6C1,6C1,6C1,6C1,6BE,6BE,6BE,6BE,6D2 FBAF-FBB1e6D2,6D3,6D3
  FBD3-FBDDe6AD,6AD,6AD,6AD,6C7,6C7,6C6,6C6,6C8,6C8,6C7+674
  FBDE-FBE8e6CB,6CB,6C5,6C5,6C9,6C9,6D0,6D0,6D0,6D0,649
  FBE9-FBEEe649,626+627,626+627,626+6D5,626+6D5,626+648
  FBEF-FBF4e626+648,626+6C7,626+6C7,626+6C6,626+6C6,626+6C8
  FBF5-FC01e626+6C8,626+6D0,626+6D0,626+6D0,626+649,626+649,626+649,6CC,6CC,6CC,6CC,626+62C,626+62D
  FC02-FC0Ce626+645,626+649,626+64A,628+62C,628+62D,628+62E,628+645,628+649,628+64A,62A+62C,62A+62D
  FC0D-FC17e62A+62E,62A+645,62A+649,62A+64A,62B+62C,62B+645,62B+649,62B+64A,62C+62D,62C+645,62D+62C
  FC18-FC22e62D+645,62E+62C,62E+62D,62E+645,633+62C,633+62D,633+62E,633+645,635+62D,635+645,636+62C
  FC23-FC2De636+62D,636+62E,636+645,637+62D,637+645,638+645,639+62C,639+645,63A+62C,63A+645,641+62C
  FC2E-FC38e641+62D,641+62E,641+645,641+649,641+64A,642+62D,642+645,642+649,642+64A,643+627,643+62C
  FC39-FC43e643+62D,643+62E,643+644,643+645,643+649,643+64A,644+62C,644+62D,644+62E,644+645,644+649
  FC44-FC4Ee644+64A,645+62C,645+62D,645+62E,645+645,645+649,645+64A,646+62C,646+62D,646+62E,646+645
  FC4F-FC59e646+649,646+64A,647+62C,647+645,647+649,647+64A,64A+62C,64A+62D,64A+62E,64A+645,64A+649
  FC5A-FC62e64A+64A,630+670,631+670,649+670,20+64C+651,20+64D+651,20+64E+651,20+64F+651,20+650+651
  FC63-FC67e20+651+670,626+631,626+632,626+645,626+646
  FC68-FC6De626+649,626+64A,628+631,628+632,628+645,628+646
  FC6E-FC78e628+649,628+64A,62A+631,62A+632,62A+645,62A+646,62A+649,62A+64A,62B+631,62B+632,62B+645
  FC79-FC83e62B+646,62B+649,62B+64A,641+649,641+64A,642+649,642+64A,643+627,643+644,643+645,643+649
  FC84-FC8Ee643+64A,644+645,644+649,644+64A,645+627,645+645,646+631,646+632,646+645,646+646,646+649
  FC8F-FC99e646+64A,649+670,64A+631,64A+632,64A+645,64A+646,64A+649,64A+64A,626+62C,626+62D,626+62E
  FC9A-FCA4e626+645,626+647,628+62C,628+62D,628+62E,628+645,628+647,62A+62C,62A+62D,62A+62E,62A+645
  FCA5-FCAFe62A+647,62B+645,62C+62D,62C+645,62D+62C,62D+645,62E+62C,62E+645,633+62C,633+62D,633+62E
  FCB0-FCBAe633+645,635+62D,635+62E,635+645,636+62C,636+62D,636+62E,636+645,637+62D,638+645,639+62C
  FCBB-FCC5e639+645,63A+62C,63A+645,641+62C,641+62D,641+62E,641+645,642+62D,642+645,643+62C,643+62D
  FCC6-FCD0e643+62E,643+644,643+645,644+62C,644+62D,644+62E,644+645,644+647,645+62C,645+62D,645+62E
  FCD1-FCDBe645+645,646+62C,646+62D,646+62E,646+645,646+647,647+62C,647+645,647+670,64A+62C,64A+62D
  FCDC-FCE6e64A+62E,64A+645,64A+647,626+645,626+647,628+645,628+647,62A+645,62A+647,62B+645,62B+647
  FCE7-FCF1e633+645,633+647,634+645,634+647,643+644,643+645,644+645,646+645,646+647,64A+645,64A+647
  FCF2-FCF6e640+64E+651,640+64F+651,640+650+651,637+649,637+64A
  FCF7-FCFBe639+649,639+64A,63A+649,63A+64A,633+649
  FCFC-FD06e633+64A,634+649,634+64A,62D+649,62D+64A,62C+649,62C+64A,62E+649,62E+64A,635+649,635+64A
  FD07-FD11e636+649,636+64A,634+62C,634+62D,634+62E,634+645,634+631,633+631,635+631,636+631,637+649
  FD12-FD1Ce637+64A,639+649,639+64A,63A+649,63A+64A,633+649,633+64A,634+649,634+64A,62D+649,62D+64A
  FD1D-FD27e62C+649,62C+64A,62E+649,62E+64A,635+649,635+64A,636+649,636+64A,634+62C,634+62D,634+62E
  FD28-FD32e634+645,634+631,633+631,635+631,636+631,634+62C,634+62D,634+62E,634+645,633+647,634+647
  FD33-FD3De637+645,633+62C,633+62D,633+62E,634+62C,634+62D,634+62E,637+645,638+645,627+64B,627+64B
  FD50-FD56e62A+62C+645,62A+62D+62C,62A+62D+62C,62A+62D+645,62A+62E+645,62A+645+62C,62A+645+62D
  FD57-FD5De62A+645+62E,62C+645+62D,62C+645+62D,62D+645+64A,62D+645+649,633+62D+62C,633+62C+62D
  FD5E-FD64e633+62C+649,633+645+62D,633+645+62D,633+645+62C,633+645+645,633+645+645,635+62D+62D
  FD65-FD6Be635+62D+62D,635+645+645,634+62D+645,634+62D+645,634+62C+64A,634+645+62E,634+645+62E
  FD6C-FD72e634+645+645,634+645+645,636+62D+649,636+62E+645,636+62E+645,637+645+62D,637+645+62D
  FD73-FD79e637+645+645,637+645+64A,639+62C+645,639+645+645,639+645+645,639+645+649,63A+645+645
  FD7A-FD80e63A+645+64A,63A+645+649,641+62E+645,641+62E+645,642+645+62D,642+645+645,644+62D+645
  FD81-FD87e644+62D+64A,644+62D+649,644+62C+62C,644+62C+62C,644+62E+645,644+62E+645,644+645+62D
  FD88-FD8Ee644+645+62D,645+62D+62C,645+62D+645,645+62D+64A,645+62C+62D,645+62C+645,645+62E+62C
  FD8Fe645+62E+645
  FD92-FD98e645+62C+62E,647+645+62C,647+645+645,646+62D+645,646+62D+649,646+62C+645,646+62C+645
  FD99-FD9Fe646+62C+649,646+645+64A,646+645+649,64A+645+645,64A+645+645,628+62E+64A,62A+62C+64A
  FDA0-FDA6e62A+62C+649,62A+62E+64A,62A+62E+649,62A+645+64A,62A+645+649,62C+645+64A,62C+62D+649
  FDA7-FDADe62C+645+649,633+62E+649,635+62D+64A,634+62D+64A,636+62D+64A,644+62C+64A,644+645+64A
  FDAE-FDB4e64A+62D+64A,64A+62C+64A,64A+645+64A,645+645+64A,642+645+64A,646+62D+64A,642+645+62D
  FDB5-FDBBe644+62D+645,639+645+64A,643+645+64A,646+62C+62D,645+62E+64A,644+62C+645,643+645+645
  FDBC-FDC2e644+62C+645,646+62C+62D,62C+62D+64A,62D+62C+64A,645+62C+64A,641+645+64A,628+62D+64A
  FDC3-FDC7e643+645+645,639+62C+645,635+645+645,633+62E+64A,646+62C+64A FDD0-FDEFx
  FDF0-FDF5e635+644+6D2,642+644+6D2,627+644+644+647,627+643+628+631,645+62D+645+62F,635+644+639+645
  FDF6-FDF9e631+633+648+644,639+644+64A+647,648+633+644+645,635+644+649
  FDFAe635+644+649+20+627+644+644+647+20+639+644+64A+647+20+648+633+644+645
  FDFB-FDFCe62C+644+20+62C+644+627+644+647,631+6CC+627+644 FE00-FE0Fo FE10-FE11e2C,3001 FE12x
  FE13-FE18e3A,3B,21,3F,3016,3017 FE19-FE1Fx FE30x
  FE31-FE40e2014,2013,5F,5F,28,29,7B,7D,3014,3015,3010,3011,300A,300B,3008,3009 FE41-FE44m300C
  FE47-FE51e5B,5D,20+305,20+305,20+305,20+305,5F,5F,5F,2C,3001 FE52-FE53x
  FE54-FE66e3B,3A,3F,21,2014,28,29,7B,7D,3014,3015,23,26,2A,2B,2D,3C,3E,3D FE67x
  FE68-FE6Be5C,24,25,40 FE6C-FE6Fx FE70-FE72e20+64B,640+64B,20+64C FE74e20+64D FE75x
  FE76-FE7Ce20+64E,640+64E,20+64F,640+64F,20+650,640+650,20+651
  FE7D-FE83e640+651,20+652,640+652,621,622,622,623
  FE84-FE8Ee623,624,624,625,625,626,626,626,626,627,627
  FE8F-FE9Ae628,628,628,628,629,629,62A,62A,62A,62A,62B,62B
  FE9B-FEA5e62B,62B,62C,62C,62C,62C,62D,62D,62D,62D,62E
  FEA6-FEB1e62E,62E,62E,62F,62F,630,630,631,631,632,632,633
  FEB2-FEBCe633,633,633,634,634,634,634,635,635,635,635
  FEBD-FEC8e636,636,636,636,637,637,637,637,638,638,638,638
  FEC9-FED3e639,639,639,639,63A,63A,63A,63A,641,641,641
  FED4-FEDFe641,642,642,642,642,643,643,643,643,644,644,644
  FEE0-FEEAe644,645,645,645,645,646,646,646,646,647,647
  FEEB-FEF5e647,647,648,648,649,649,64A,64A,64A,64A,644+622
  FEF6-FEFCe644+622,644+623,644+623,644+625,644+625,644+627,644+627 FEFD-FEFEx FEFFo FF00x
  FF01-FF20m21 FF21-FF3Am61 FF3B-FF5Em5B FF5F-FF67e2985,2986,2E,300C,300D,3001,30FB,30F2,30A1
  FF68-FF71e30A3,30A5,30A7,30A9,30E3,30E5,30E7,30C3,30FC,30A2
  FF72-FF7Ae30A4,30A6,30A8,30AA,30AB,30AD,30AF,30B1,30B3
  FF7B-FF84e30B5,30B7,30B9,30BB,30BD,30BF,30C1,30C4,30C6,30C8 FF85-FF8Am30CA
  FF8B-FF8Ee30D2,30D5,30D8,30DB FF8F-FF93m30DE FF94-FF95e30E4,30E6 FF96-FF9Bm30E8
  FF9C-FF9Fe30EF,30F3,3099,309A FFA0o FFA1-FFA6e1100,1101,11AA,1102,11AC,11AD FFA7-FFA9m1103
  FFAA-FFAFm11B0 FFB0e111A FFB1-FFB3m1106 FFB4e1121 FFB5-FFBEm1109 FFBF-FFC1x FFC2-FFC7m1161
  FFC8-FFC9x FFCA-FFCFm1167 FFD0-FFD1x FFD2-FFD7m116D FFD8-FFD9x FFDA-FFDCm1173 FFDD-FFDFx
  FFE0-FFE6eA2,A3,AC,20+304,A6,A5,20A9 FFE7x FFE8e2502 FFE9-FFECm2190 FFED-FFEEe25A0,25CB FFEF-FFFFx
  1000Cx 10027x 1003Bx 1003Ex 1004E-1004Fx 1005E-1007Fx 100FB-100FFx 10103-10106x 10134-10136x
  1018Fx 1019D-1019Fx 101A1-101CFx 101FE-1027Fx 1029D-1029Fx 102D1-102DFx 102FC-102FFx 10324-1032Cx
  1034B-1034Fx 1037B-1037Fx 1039Ex 103C4-103C7x 103D6-103FFx 10400-10427m10428 1049E-1049Fx
  104AA-104AFx 104B0-104D3m104D8 104D4-104D7x 104FC-104FFx 10528-1052Fx 10564-1056Ex
  10570-1057Am10597 1057Bx 1057C-1058Am105A3 1058Bx 1058C-10592m105B3 10593x 10594-10595e105BB,105BC
  10596x 105A2x 105B2x 105BAx 105BD-105BFx 105F4-105FFx 10737-1073Fx 10756-1075Fx 10768-1077Fx
  10781-10785e2D0,2D1,E6,299,253 10786x 10787-10791e2A3,AB66,2A5,2A4,256,257,1D91,258,25E,2A9,264
  10792-1079Ce262,260,29B,127,29C,267,284,2AA,2AB,26C,1DF04
  1079D-107B0eA78E,26E,1DF05,28E,1DF06,F8,276,277,71,27A,1DF08,27D,27E,280,2A8,2A6,AB67,2A7,288,2C71
  107B1x 107B2-107B5e28F,2A1,2A2,298 107B6-107B8m1C0 107B9-107BAe1DF0A,1DF1E 107BB-107FFx
  10806-10807x 10809x 10836x 10839-1083Bx 1083D-1083Ex 10856x 1089F-108A6x 108B0-108DFx 108F3x
  108F6-108FAx 1091C-1091Ex 1093A-1093Ex 1095A-1097Fx 109B8-109BBx 109D0-109D1x 10A04x 10A07-10A0Bx
  10A14x 10A18x 10A36-10A37x 10A3B-10A3Ex 10A49-10A4Fx 10A59-10A5Fx 10AA0-10ABFx 10AE7-10AEAx
  10AF7-10AFFx 10B36-10B38x 10B56-10B57x 10B73-10B77x 10B92-10B98x 10B9D-10BA8x 10BB0-10BFFx
  10C49-10C7Fx 10C80-10CB2m10CC0 10CB3-10CBFx 10CF3-10CF9x 10D28-10D2Fx 10D3A-10D3Fx
  10D50-10D65m10D70 10D66-10D68x 10D86-10D8Dx 10D90-10E5Fx 10E7Fx 10EAAx 10EAE-10EAFx 10EB2-10EC1x
  10EC8-10ECFx 10ED9-10EF9x 10F28-10F2Fx 10F5A-10F6Fx 10F8A-10FAFx 10FCC-10FDFx 10FF7-10FFFx
  1104E-11051x 11076-1107Ex 110BDx 110C3-110CFx 110E9-110EFx 110FA-110FFx 11135x 11148-1114Fx
  11177-1117Fx 111E0x 111F5-111FFx 11212x 11242-1127Fx 11287x 11289x 1128Ex 1129Ex 112AA-112AFx
  112EB-112EFx 112FA-112FFx 11304x 1130D-1130Ex 11311-11312x 11329x 11331x 11334x 1133Ax
  11345-11346x 11349-1134Ax 1134E-1134Fx 11351-11356x 11358-1135Cx 11364-11365x 1136D-1136Fx
  11375-1137Fx 1138Ax 1138C-1138Dx 1138Fx 113B6x 113C1x 113C3-113C4x 113C6x 113CBx 113D6x
  113D9-113E0x 113E3-113FFx 1145Cx 11462-1147Fx 114C8-114CFx 114DA-1157Fx 115B6-115B7x 115DE-115FFx
  11645-1164Fx 1165A-1165Fx 1166D-1167Fx 116BA-116BFx 116CA-116CFx 116E4-116FFx 1171B-1171Cx
  1172C-1172Fx 11747-117FFx 1183C-1189Fx 118A0-118BFm118C0 118F3-118FEx 11907-11908x 1190A-1190Bx
  11914x 11917x 11936x 11939-1193Ax 11947-1194Fx 1195A-1199Fx 119A8-119A9x 119D8-119D9x 119E5-119FFx
  11A48-11A4Fx 11AA3-11AAFx 11AF9-11AFFx 11B0A-11B5Fx 11B68-11BBFx 11BE2-11BEFx 11BFA-11BFFx 11C09x
  11C37x 11C46-11C4Fx 11C6D-11C6Fx 11C90-11C91x 11CA8x 11CB7-11CFFx 11D07x 11D0Ax 11D37-11D39x
  11D3Bx 11D3Ex 11D48-11D4Fx 11D5A-11D5Fx 11D66x 11D69x 11D8Fx 11D92x 11D99-11D9Fx 11DAA-11DAFx
  11DDC-11DDFx 11DEA-11EDFx 11EF9-11EFFx 11F11x 11F3B-11F3Dx 11F5B-11FAFx 11FB1-11FBFx 11FF2-11FFEx
  1239A-123FFx 1246Fx 12475-1247Fx 12544-12F8Fx 12FF3-12FFFx 13430-1343Fx 13456-1345Fx 143FB-143FFx
  14647-160FFx 1613A-167FFx 16A39-16A3Fx 16A5Fx 16A6A-16A6Dx 16ABFx 16ACA-16ACFx 16AEE-16AEFx
  16AF6-16AFFx 16B46-16B4Fx 16B5Ax 16B62x 16B78-16B7Cx 16B90-16D3Fx 16D7A-16E3Fx 16E40-16E5Fm16E60
  16E9B-16E9Fx 16EA0-16EB8m16EBB 16EB9-16EBAx 16ED4-16EFFx 16F4B-16F4Ex 16F88-16F8Ex 16FA0-16FDFx
  16FE5-16FEFx 16FF7-16FFFx 18CD6-18CFEx 18D1F-18D7Fx 18DF3-1AFEFx 1AFF4x 1AFFCx 1AFFFx 1B123-1B131x
  1B133-1B14Fx 1B153-1B154x 1B156-1B163x 1B168-1B16Fx 1B2FC-1BBFFx 1BC6B-1BC6Fx 1BC7D-1BC7Fx
  1BC89-1BC8Fx 1BC9A-1BC9Bx 1BCA0-1BCA3o 1BCA4-1CBFFx 1CCD6-1CCEFm61 1CCF0-1CCF9m30 1CCFD-1CCFFx
  1CEB4-1CEB9x 1CED1-1CEDFx 1CEF1-1CEFFx 1CF2E-1CF2Fx 1CF47-1CF4Fx 1CFC4-1CFFFx 1D0F6-1D0FFx
  1D127-1D128x 1D15E-1D160e1D157+1D165,1D158+1D165,1D158+1D165+1D16E
  1D161-1D163e1D158+1D165+1D16F,1D158+1D165+1D170,1D158+1D165+1D171 1D164e1D158+1D165+1D172
  1D173-1D17Ao 1D1BB-1D1BDe1D1B9+1D165,1D1BA+1D165,1D1B9+1D165+1D16E
  1D1BE-1D1C0e1D1BA+1D165+1D16E,1D1B9+1D165+1D16F,1D1BA+1D165+1D16F 1D1EB-1D1FFx 1D246-1D2BFx
  1D2D4-1D2DFx 1D2F4-1D2FFx 1D357-1D35Fx 1D379-1D3FFx 1D400-1D419m61 1D41A-1D433m61 1D434-1D44Dm61
  1D44E-1D454m61 1D455x 1D456-1D467m69 1D468-1D481m61 1D482-1D49Bm61 1D49Ce61 1D49Dx
  1D49E-1D49Fe63,64 1D4A0-1D4A1x 1D4A2e67 1D4A3-1D4A4x 1D4A5-1D4A6e6A,6B 1D4A7-1D4A8x 1D4A9-1D4ACm6E
  1D4ADx 1D4AE-1D4B5m73 1D4B6-1D4B9m61 1D4BAx 1D4BBe66 1D4BCx 1D4BD-1D4C3m68 1D4C4x 1D4C5-1D4CFm70
  1D4D0-1D4E9m61 1D4EA-1D503m61 1D504-1D505e61,62 1D506x 1D507-1D50Am64 1D50B-1D50Cx 1D50D-1D514m6A
  1D515x 1D516-1D51Cm73 1D51Dx 1D51E-1D537m61 1D538-1D539e61,62 1D53Ax 1D53B-1D53Em64 1D53Fx
  1D540-1D544m69 1D545x 1D546e6F 1D547-1D549x 1D54A-1D550m73 1D551x 1D552-1D56Bm61 1D56C-1D585m61
  1D586-1D59Fm61 1D5A0-1D5B9m61 1D5BA-1D5D3m61 1D5D4-1D5EDm61 1D5EE-1D607m61 1D608-1D621m61
  1D622-1D63Bm61 1D63C-1D655m61 1D656-1D66Fm61 1D670-1D689m61 1D68A-1D6A3m61 1D6A4-1D6A5e131,237
  1D6A6-1D6A7x 1D6A8-1D6B8m3B1 1D6B9e3B8 1D6BA-1D6C0m3C3 1D6C1e2207 1D6C2-1D6D2m3B1 1D6D3e3C3
  1D6D4-1D6DAm3C3 1D6DB-1D6E1e2202,3B5,3B8,3BA,3C6,3C1,3C0 1D6E2-1D6F2m3B1 1D6F3e3B8 1D6F4-1D6FAm3C3
  1D6FBe2207 1D6FC-1D70Cm3B1 1D70De3C3 1D70E-1D714m3C3 1D715-1D71Be2202,3B5,3B8,3BA,3C6,3C1,3C0
  1D71C-1D72Cm3B1 1D72De3B8 1D72E-1D734m3C3 1D735e2207 1D736-1D746m3B1 1D747e3C3 1D748-1D74Em3C3
  1D74F-1D755e2202,3B5,3B8,3BA,3C6,3C1,3C0 1D756-1D766m3B1 1D767e3B8 1D768-1D76Em3C3 1D76Fe2207
  1D770-1D780m3B1 1D781e3C3 1D782-1D788m3C3 1D789-1D78Fe2202,3B5,3B8,3BA,3C6,3C1,3C0 1D790-1D7A0m3B1
  1D7A1e3B8 1D7A2-1D7A8m3C3 1D7A9e2207 1D7AA-1D7BAm3B1 1D7BBe3C3 1D7BC-1D7C2m3C3
  1D7C3-1D7CBe2202,3B5,3B8,3BA,3C6,3C1,3C0,3DD,3DD 1D7CC-1D7CDx 1D7CE-1D7D7m30 1D7D8-1D7E1m30
  1D7E2-1D7EBm30 1D7EC-1D7F5m30 1D7F6-1D7FFm30 1DA8C-1DA9Ax 1DAA0x 1DAB0-1DEFFx 1DF1F-1DF24x
  1DF2B-1DFFFx 1E007x 1E019-1E01Ax 1E022x 1E025x 1E02B-1E02Fx 1E030-1E038m430 1E039-1E03Bm43A
  1E03C-1E046m43E 1E047-1E050e44B,44D,44E,A689,4D9,456,458,4E9,4AF,4CF 1E051-1E059m430
  1E05A-1E05Ee43A,43B,43E,43F,441 1E05F-1E064m443 1E065-1E06De44A,44B,491,456,455,45F,4AB,A651,4B1
  1E06E-1E08Ex 1E090-1E0FFx 1E12D-1E12Fx 1E13E-1E13Fx 1E14A-1E14Dx 1E150-1E28Fx 1E2AF-1E2BFx
  1E2FA-1E2FEx 1E300-1E4CFx 1E4FA-1E5CFx 1E5FB-1E5FEx 1E600-1E6BFx 1E6DFx 1E6F6-1E6FDx 1E700-1E7DFx
  1E7E7x 1E7ECx 1E7EFx 1E7FFx 1E8C5-1E8C6x 1E8D7-1E8FFx 1E900-1E921m1E922 1E94C-1E94Fx 1E95A-1E95Dx
  1E960-1EC70x 1ECB5-1ED00x 1ED3E-1EDFFx 1EE00-1EE03e627,628,62C,62F 1EE04x
  1EE05-1EE09e648,632,62D,637,64A 1EE0A-1EE0Dm643
  1EE0E-1EE1Fe633,639,641,635,642,631,634,62A,62B,62E,630,636,638,63A,66E,6BA,6A1,66F 1EE20x
  1EE21-1EE22e628,62C 1EE23x 1EE24e647 1EE25-1EE26x 1EE27e62D 1EE28x 1EE29e64A 1EE2A-1EE2Dm643
  1EE2E-1EE32e633,639,641,635,642 1EE33x 1EE34-1EE37e634,62A,62B,62E 1EE38x 1EE39e636 1EE3Ax
  1EE3Be63A 1EE3C-1EE41x 1EE42e62C 1EE43-1EE46x 1EE47e62D 1EE48x 1EE49e64A 1EE4Ax 1EE4Be644 1EE4Cx
  1EE4D-1EE4Fe646,633,639 1EE50x 1EE51-1EE52e635,642 1EE53x 1EE54e634 1EE55-1EE56x 1EE57e62E 1EE58x
  1EE59e636 1EE5Ax 1EE5Be63A 1EE5Cx 1EE5De6BA 1EE5Ex 1EE5Fe66F 1EE60x 1EE61-1EE62e628,62C 1EE63x
  1EE64e647 1EE65-1EE66x 1EE67-1EE6Ae62D,637,64A,643 1EE6Bx 1EE6C-1EE72e645,646,633,639,641,635,642
  1EE73x 1EE74-1EE77e634,62A,62B,62E 1EE78x 1EE79-1EE7Ce636,638,63A,66E 1EE7Dx 1EE7Ee6A1 1EE7Fx
  1EE80-1EE89e627,628,62C,62F,647,648,632,62D,637,64A 1EE8Ax 1EE8B-1EE8Dm644
  1EE8E-1EE9Be633,639,641,635,642,631,634,62A,62B,62E,630,636,638,63A 1EE9C-1EEA0x
  1EEA1-1EEA3e628,62C,62F 1EEA4x 1EEA5-1EEA9e648,632,62D,637,64A 1EEAAx 1EEAB-1EEADm644
  1EEAE-1EEBBe633,639,641,635,642,631,634,62A,62B,62E,630,636,638,63A 1EEBC-1EEEFx 1EEF2-1EFFFx
  1F02C-1F02Fx 1F094-1F09Fx 1F0AF-1F0B0x 1F0C0x 1F0D0x 1F0F6-1F100x
  1F101-1F10Ae30+2C,31+2C,32+2C,33+2C,34+2C,35+2C,36+2C,37+2C,38+2C,39+2C
  1F110-1F118e28+61+29,28+62+29,28+63+29,28+64+29,28+65+29,28+66+29,28+67+29,28+68+29,28+69+29
  1F119-1F121e28+6A+29,28+6B+29,28+6C+29,28+6D+29,28+6E+29,28+6F+29,28+70+29,28+71+29,28+72+29
  1F122-1F126e28+73+29,28+74+29,28+75+29,28+76+29,28+77+29
  1F127-1F12Ce28+78+29,28+79+29,28+7A+29,3014+73+3015,63,72 1F12D-1F12Ee63+64,77+7A 1F130-1F149m61
  1F14A-1F14Fe68+76,6D+76,73+64,73+73,70+70+76,77+63 1F16A-1F16Ce6D+63,6D+64,6D+72 1F190e64+6A
  1F1AE-1F1E5x 1F200-1F202e307B+304B,30B3+30B3,30B5 1F203-1F20Fx
  1F210-1F218e624B,5B57,53CC,30C7,4E8C,591A,89E3,5929,4EA4
  1F219-1F222e6620,7121,6599,524D,5F8C,518D,65B0,521D,7D42,751F
  1F223-1F22Be8CA9,58F0,5439,6F14,6295,6355,4E00,4E09,904A
  1F22C-1F235e5DE6,4E2D,53F3,6307,8D70,6253,7981,7A7A,5408,6E80
  1F236-1F23Be6709,6708,7533,5272,55B6,914D 1F23C-1F23Fx
  1F240-1F242e3014+672C+3015,3014+4E09+3015,3014+4E8C+3015
  1F243-1F245e3014+5B89+3015,3014+70B9+3015,3014+6253+3015
  1F246-1F248e3014+76D7+3015,3014+52DD+3015,3014+6557+3015 1F249-1F24Fx 1F250-1F251e5F97,53EF
  1F252-1F25Fx 1F266-1F2FFx 1F6D9-1F6DBx 1F6ED-1F6EFx 1F6FD-1F6FFx 1F7DA-1F7DFx 1F7EC-1F7EFx
  1F7F1-1F7FFx 1F80C-1F80Fx 1F848-1F84Fx 1F85A-1F85Fx 1F888-1F88Fx 1F8AE-1F8AFx 1F8BC-1F8BFx
  1F8C2-1F8CFx 1F8D9-1F8FFx 1FA58-1FA5Fx 1FA6E-1FA6Fx 1FA7D-1FA7Fx 1FA8B-1FA8Dx 1FAC7x 1FAC9-1FACCx
  1FADD-1FADEx 1FAEB-1FAEEx 1FAF9-1FAFFx 1FB93x 1FBF0-1FBF9m30 1FBFB-1FFFFx 2A6E0-2A6FFx
  2B81E-2B81Fx 2CEAE-2CEAFx 2EBE1-2EBEFx 2EE5E-2F7FFx
  2F800-2F808e4E3D,4E38,4E41,20122,4F60,4FAE,4FBB,5002,507A
  2F809-2F811e5099,50E7,50CF,349E,2063A,514D,5154,5164,5177
  2F812-2F81Ae2051C,34B9,5167,518D,2054B,5197,51A4,4ECC,51AC
  2F81B-2F823e51B5,291DF,51F5,5203,34DF,523B,5246,5272,5277
  2F824-2F82Ce3515,52C7,52C9,52E4,52FA,5305,5306,5317,5349
  2F82D-2F835e5351,535A,5373,537D,537F,537F,537F,20A2C,7070
  2F836-2F83Ee53CA,53DF,20B63,53EB,53F1,5406,549E,5438,5448
  2F83F-2F847e5468,54A2,54F6,5510,5553,5563,5584,5584,5599
  2F848-2F850e55AB,55B3,55C2,5716,5606,5717,5651,5674,5207
  2F851-2F859e58EE,57CE,57F4,580D,578B,5832,5831,58AC,214E4
  2F85A-2F862e58F2,58F7,5906,591A,5922,5962,216A8,216EA,59EC
  2F863-2F86Be5A1B,5A27,59D8,5A66,36EE,36FC,5B08,5B3E,5B3E
  2F86C-2F874e219C8,5BC3,5BD8,5BE7,5BF3,21B18,5BFF,5C06,5F53
  2F875-2F87De5C22,3781,5C60,5C6E,5CC0,5C8D,21DE4,5D43,21DE6
  2F87E-2F886e5D6E,5D6B,5D7C,5DE1,5DE2,382F,5DFD,5E28,5E3D
  2F887-2F88Fe5E69,3862,22183,387C,5EB0,5EB3,5EB6,5ECA,2A392
  2F890-2F898e5EFE,22331,22331,8201,5F22,5F22,38C7,232B8,261DA
  2F899-2F8A1e5F62,5F6B,38E3,5F9A,5FCD,5FD7,5FF9,6081,393A
  2F8A2-2F8AAe391C,6094,226D4,60C7,6148,614C,614E,614C,617A
  2F8AB-2F8B3e618E,61B2,61A4,61AF,61DE,61F2,61F6,6210,621B
  2F8B4-2F8BCe625D,62B1,62D4,6350,22B0C,633D,62FC,6368,6383
  2F8BD-2F8C5e63E4,22BF1,6422,63C5,63A9,3A2E,6469,647E,649D
  2F8C6-2F8CEe6477,3A6C,654F,656C,2300A,65E3,66F8,6649,3B19
  2F8CF-2F8D7e6691,3B08,3AE4,5192,5195,6700,669C,80AD,43D9
  2F8D8-2F8E0e6717,671B,6721,675E,6753,233C3,3B49,67FA,6785
  2F8E1-2F8E9e6852,6885,2346D,688E,681F,6914,3B9D,6942,69A3
  2F8EA-2F8F2e69EA,6AA8,236A3,6ADB,3C18,6B21,238A7,6B54,3C4E
  2F8F3-2F8FBe6B72,6B9F,6BBA,6BBB,23A8D,21D0B,23AFA,6C4E,23CBC
  2F8FC-2F904e6CBF,6CCD,6C67,6D16,6D3E,6D77,6D41,6D69,6D78
  2F905-2F90De6D85,23D1E,6D34,6E2F,6E6E,3D33,6ECB,6EC7,23ED1
  2F90E-2F916e6DF9,6F6E,23F5E,23F8E,6FC6,7039,701E,701B,3D96
  2F917-2F91Fe704A,707D,7077,70AD,20525,7145,24263,719C,243AB
  2F920-2F928e7228,7235,7250,24608,7280,7295,24735,24814,737A
  2F929-2F931e738B,3EAC,73A5,3EB8,3EB8,7447,745C,7471,7485
  2F932-2F939e74CA,3F1B,7524,24C36,753E,24C92,7570,2219F
  2F93A-2F942e7610,24FA1,24FB8,25044,3FFC,4008,76F4,250F3,250F2
  2F943-2F94Be25119,25133,771E,771F,771F,774A,4039,778B,4046
  2F94C-2F954e4096,2541D,784E,788C,78CC,40E3,25626,7956,2569A
  2F955-2F95Ce256C5,798F,79EB,412F,7A40,7A4A,7A4F,2597C
  2F95D-2F965e25AA7,25AA7,7AEE,4202,25BAB,7BC6,7BC9,4227,25C80
  2F966-2F96Ee7CD2,42A0,7CE8,7CE3,7D00,25F86,7D63,4301,7DC7
  2F96F-2F977e7E02,7E45,4334,26228,26247,4359,262D9,7F7A,2633E
  2F978-2F97Fe7F95,7FFA,8005,264DA,26523,8060,265A8,8070
  2F980-2F988e2335F,43D5,80B2,8103,440B,813E,5AB5,267A7,267B5
  2F989-2F991e23393,2339C,8201,8204,8F9E,446B,8291,828B,829D
  2F992-2F99Ae52B3,82B1,82B3,82BD,82E6,26B3C,82E5,831D,8363
  2F99B-2F9A3e83AD,8323,83BD,83E7,8457,8353,83CA,83CC,83DC
  2F9A4-2F9ACe26C36,26D6B,26CD5,452B,84F1,84F3,8516,273CA,8564
  2F9AD-2F9B5e26F2C,455D,4561,26FB1,270D2,456B,8650,865C,8667
  2F9B6-2F9BEe8669,86A9,8688,870E,86E2,8779,8728,876B,8786
  2F9BF-2F9C7e45D7,87E1,8801,45F9,8860,8863,27667,88D7,88DE
  2F9C8-2F9D0e4635,88FA,34BB,278AE,27966,46BE,46C7,8AA0,8AED
  2F9D1-2F9D8e8B8A,8C55,27CA8,8CAB,8CC1,8D1B,8D77,27F2F
  2F9D9-2F9E1e20804,8DCB,8DBC,8DF0,208DE,8ED4,8F38,285D2,285ED
  2F9E2-2F9EAe9094,90F1,9111,2872E,911B,9238,92D7,92D8,927C
  2F9EB-2F9F3e93F9,9415,28BFA,958B,4995,95B7,28D77,49E6,96C3
  2F9F4-2F9FCe5DB2,9723,29145,2921A,4A6E,4A76,97E0,2940A,4AB2
  2F9FD-2FA05e29496,980B,980B,9829,295B6,98E2,4B33,9929,99A7
  2FA06-2FA0Ee99C2,99FE,4BCE,29B30,9B12,9C40,9CFD,4CCE,4CED
  2FA0F-2FA17e9D67,2A0CE,4CF8,2A105,2A20E,2A291,9EBB,4D56,9EF9
  2FA18-2FA1De9EFE,9F05,9F0F,9F16,9F3B,2A600 2FA1E-2FFFFx 3134B-3134Fx 3347A-E00FFx E0100-E01EFo
  E01F0-10FFFFx"

end Reading

/-- What a character is read as, if it may stand in a name. -/
def understand (c : Char) : Option (List Char) :=
  match Reading.table.find? c with
  | some span => Reading.of span c
  | none => some [c]

def isKept (c : Char) : Bool := understand c == some [c]

end ChainLens.Web.DomainName
