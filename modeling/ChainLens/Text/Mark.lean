import ChainLens.Text.Decimal
import ChainLens.Text.SpanTable

/-!
Combining marks: characters that belong to the character before them. A mark has a combining class,
the order in which marks of one character are kept; marks of class zero stay where they are.
-/

namespace ChainLens.Text

structure Mark where
  /-- The mark takes up no place of its own. -/
  isNonspacing : Bool
  combiningClass : Nat
  deriving DecidableEq, Repr

namespace Mark

/-- A mark is written as `n` or `s`, and its class unless that is zero. -/
def read? : List Char → Option Mark
  | 'n' :: digits => some ⟨true, ofDigits digits⟩
  | 's' :: digits => some ⟨false, ofDigits digits⟩
  | _ => none

/-- The combining marks of Unicode. A span may also hold code points that stand for no character. -/
def table : SpanTable Mark := .read read? "
  300-314n230 315n232 316-319n220 31An232 31Bn216 31C-320n220 321-322n202 323-326n220 327-328n202
  329-333n220 334-338n1 339-33Cn220 33D-344n230 345n240 346n230 347-349n220 34A-34Cn230 34D-34En220
  34Fn 350-352n230 353-356n220 357n230 358n232 359-35An220 35Bn230 35Cn233 35D-35En234 35Fn233
  360-361n234 362n233 363-36Fn230 483-487n230 488-489n 591n220 592-595n230 596n220 597-599n230
  59An222 59Bn220 59C-5A1n230 5A2-5A7n220 5A8-5A9n230 5AAn220 5AB-5ACn230 5ADn222 5AEn228 5AFn230
  5B0n10 5B1n11 5B2n12 5B3n13 5B4n14 5B5n15 5B6n16 5B7n17 5B8n18 5B9-5BAn19 5BBn20 5BCn21 5BDn22
  5BFn23 5C1n24 5C2n25 5C4n230 5C5n220 5C7n18 610-617n230 618n30 619n31 61An32 64Bn27 64Cn28 64Dn29
  64En30 64Fn31 650n32 651n33 652n34 653-654n230 655-656n220 657-65Bn230 65Cn220 65D-65En230 65Fn220
  670n35 6D6-6DCn230 6DF-6E2n230 6E3n220 6E4n230 6E7-6E8n230 6EAn220 6EB-6ECn230 6EDn220 711n36
  730n230 731n220 732-733n230 734n220 735-736n230 737-739n220 73An230 73B-73Cn220 73Dn230 73En220
  73F-741n230 742n220 743n230 744n220 745n230 746n220 747n230 748n220 749-74An230 7A6-7B0n
  7EB-7F1n230 7F2n220 7F3n230 7FDn220 816-819n230 81B-823n230 825-827n230 829-82Dn230 859-85Bn220
  897-898n230 899-89Bn220 89C-89Fn230 8CA-8CEn230 8CF-8D3n220 8D4-8E1n230 8E3n220 8E4-8E5n230
  8E6n220 8E7-8E8n230 8E9n220 8EA-8ECn230 8ED-8EFn220 8F0n27 8F1n28 8F2n29 8F3-8F5n230 8F6n220
  8F7-8F8n230 8F9-8FAn220 8FB-8FFn230 900-902n 903s 93An 93Bs 93Cn7 93E-940s 941-948n 949-94Cs 94Dn9
  94E-94Fs 951n230 952n220 953-954n230 955-957n 962-963n 981n 982-983s 9BCn7 9BE-9C0s 9C1-9C4n
  9C7-9CCs 9CDn9 9D7s 9E2-9E3n 9FEn230 A01-A02n A03s A3Cn7 A3E-A40s A41-A4Cn A4Dn9 A51n A70-A71n
  A75n A81-A82n A83s ABCn7 ABE-AC0s AC1-AC8n AC9-ACCs ACDn9 AE2-AE3n AFA-B01n B02-B03s B3Cn7 B3Es
  B3Fn B40s B41-B44n B47-B4Cs B4Dn9 B55-B56n B57s B62-B63n B82n BBE-BBFs BC0n BC1-BCCs BCDn9 BD7s
  C00n C01-C03s C04n C3Cn7 C3E-C40n C41-C44s C46-C4Cn C4Dn9 C55n84 C56n91 C62-C63n C81n C82-C83s
  CBCn7 CBEs CBFn CC0-CC4s CC6n CC7-CCBs CCCn CCDn9 CD5-CD6s CE2-CE3n CF3s D00-D01n D02-D03s
  D3B-D3Cn9 D3E-D40s D41-D44n D46-D4Cs D4Dn9 D57s D62-D63n D81n D82-D83s DCAn9 DCF-DD1s DD2-DD6n
  DD8-DDFs DF2-DF3s E31n E34-E37n E38-E39n103 E3An9 E47n E48-E4Bn107 E4C-E4En EB1n EB4-EB7n
  EB8-EB9n118 EBAn9 EBB-EBCn EC8-ECBn122 ECC-ECEn F18-F19n220 F35n220 F37n220 F39n216 F3E-F3Fs
  F71n129 F72n130 F73n F74n132 F75-F79n F7A-F7Dn130 F7En F7Fs F80n130 F81n F82-F83n230 F84n9
  F86-F87n230 F8D-FBCn FC6n220 102B-102Cs 102D-1030n 1031s 1032-1036n 1037n7 1038s 1039-103An9
  103B-103Cs 103D-103En 1056-1057s 1058-1059n 105E-1060n 1062-1064s 1067-106Ds 1071-1074n 1082n
  1083-1084s 1085-1086n 1087-108Cs 108Dn220 108Fs 109A-109Cs 109Dn 135D-135Fn230 1712-1713n 1714n9
  1715s9 1732-1733n 1734s9 1752-1753n 1772-1773n 17B4-17B5n 17B6s 17B7-17BDn 17BE-17C5s 17C6n
  17C7-17C8s 17C9-17D1n 17D2n9 17D3n 17DDn230 180B-180Dn 180Fn 1885-1886n 18A9n228 1920-1922n
  1923-1926s 1927-1928n 1929-1931s 1932n 1933-1938s 1939n222 193An230 193Bn220 1A17n230 1A18n220
  1A19-1A1As 1A1Bn 1A55s 1A56n 1A57s 1A58-1A5En 1A60n9 1A61s 1A62n 1A63-1A64s 1A65-1A6Cn 1A6D-1A72s
  1A73-1A74n 1A75-1A7Cn230 1A7Fn220 1AB0-1AB4n230 1AB5-1ABAn220 1ABB-1ABCn230 1ABDn220 1ABEn
  1ABF-1AC0n220 1AC1-1AC2n230 1AC3-1AC4n220 1AC5-1AC9n230 1ACAn220 1ACB-1ADCn230 1ADDn220
  1AE0-1AE5n230 1AE6n220 1AE7-1AEAn230 1AEBn234 1B00-1B03n 1B04s 1B34n7 1B35s 1B36-1B3An 1B3Bs 1B3Cn
  1B3D-1B41s 1B42n 1B43s 1B44s9 1B6Bn230 1B6Cn220 1B6D-1B73n230 1B80-1B81n 1B82s 1BA1s 1BA2-1BA5n
  1BA6-1BA7s 1BA8-1BA9n 1BAAs9 1BABn9 1BAC-1BADn 1BE6n7 1BE7s 1BE8-1BE9n 1BEA-1BECs 1BEDn 1BEEs
  1BEF-1BF1n 1BF2-1BF3s9 1C24-1C2Bs 1C2C-1C33n 1C34-1C35s 1C36n 1C37n7 1CD0-1CD2n230 1CD4n1
  1CD5-1CD9n220 1CDA-1CDBn230 1CDC-1CDFn220 1CE0n230 1CE1s 1CE2-1CE8n1 1CEDn220 1CF4n230 1CF7s
  1CF8-1CF9n230 1DC0-1DC1n230 1DC2n220 1DC3-1DC9n230 1DCAn220 1DCB-1DCCn230 1DCDn234 1DCEn214
  1DCFn220 1DD0n202 1DD1-1DF5n230 1DF6n232 1DF7-1DF8n228 1DF9n220 1DFAn218 1DFBn230 1DFCn233
  1DFDn220 1DFEn230 1DFFn220 20D0-20D1n230 20D2-20D3n1 20D4-20D7n230 20D8-20DAn1 20DB-20DCn230
  20DD-20E0n 20E1n230 20E2-20E4n 20E5-20E6n1 20E7n230 20E8n220 20E9n230 20EA-20EBn1 20EC-20EFn220
  20F0n230 2CEF-2CF1n230 2D7Fn9 2DE0-2DFFn230 302An218 302Bn228 302Cn232 302Dn222 302E-302Fs224
  3099-309An8 A66Fn230 A670-A672n A674-A67Dn230 A69E-A69Fn230 A6F0-A6F1n230 A802n A806n9 A80Bn
  A823-A824s A825-A826n A827s A82Cn9 A880-A881s A8B4-A8C3s A8C4n9 A8C5n A8E0-A8F1n230 A8FFn
  A926-A92An A92B-A92Dn220 A947-A951n A952s A953s9 A980-A982n A983s A9B3n7 A9B4-A9B5s A9B6-A9B9n
  A9BA-A9BBs A9BC-A9BDn A9BE-A9BFs A9C0s9 A9E5n AA29-AA2En AA2F-AA30s AA31-AA32n AA33-AA34s
  AA35-AA36n AA43n AA4Cn AA4Ds AA7Bs AA7Cn AA7Ds AAB0n230 AAB2-AAB3n230 AAB4n220 AAB7-AAB8n230
  AABE-AABFn230 AAC1n230 AAEBs AAEC-AAEDn AAEE-AAEFs AAF5s AAF6n9 ABE3-ABE4s ABE5n ABE6-ABE7s ABE8n
  ABE9-ABEAs ABECs ABEDn9 FB1En26 FE00-FE0Fn FE20-FE26n230 FE27-FE2Dn220 FE2E-FE2Fn230 101FDn220
  102E0n220 10376-1037An230 10A01-10A0Cn 10A0Dn220 10A0En 10A0Fn230 10A38n230 10A39n1 10A3An220
  10A3Fn9 10AE5n230 10AE6n220 10D24-10D27n230 10D69-10D6Dn230 10EAB-10EACn230 10EFA-10EFBn220 10EFCn
  10EFD-10EFFn220 10F46-10F47n220 10F48-10F4An230 10F4Bn220 10F4Cn230 10F4D-10F50n220 10F82n230
  10F83n220 10F84n230 10F85n220 11000s 11001n 11002s 11038-11045n 11046n9 11070n9 11073-11074n
  1107Fn9 11080-11081n 11082s 110B0-110B2s 110B3-110B6n 110B7-110B8s 110B9n9 110BAn7 110C2n
  11100-11102n230 11127-1112Bn 1112Cs 1112D-11132n 11133-11134n9 11145-11146s 11173n7 11180-11181n
  11182s 111B3-111B5s 111B6-111BEn 111BFs 111C0s9 111C9n 111CAn7 111CB-111CCn 111CEs 111CFn
  1122C-1122Es 1122F-11231n 11232-11233s 11234n 11235s9 11236n7 11237n 1123En 11241n 112DFn
  112E0-112E2s 112E3-112E8n 112E9n7 112EAn9 11300-11301n 11302-11303s 1133B-1133Cn7 1133E-1133Fs
  11340n 11341-1134Cs 1134Ds9 11357s 11362-11363s 11366-11374n230 113B8-113BAs 113BB-113C0n
  113C2-113CDs 113CEn9 113CFs9 113D0n9 113D2n 113E1-113E2n 11435-11437s 11438-1143Fn 11440-11441s
  11442n9 11443-11444n 11445s 11446n7 1145En230 114B0-114B2s 114B3-114B8n 114B9s 114BAn 114BB-114BEs
  114BF-114C0n 114C1s 114C2n9 114C3n7 115AF-115B1s 115B2-115B5n 115B8-115BBs 115BC-115BDn 115BEs
  115BFn9 115C0n7 115DC-115DDn 11630-11632s 11633-1163An 1163B-1163Cs 1163Dn 1163Es 1163Fn9 11640n
  116ABn 116ACs 116ADn 116AE-116AFs 116B0-116B5n 116B6s9 116B7n7 1171Dn 1171Es 1171Fn 11720-11721s
  11722-11725n 11726s 11727-1172An 1172Bn9 1182C-1182Es 1182F-11837n 11838s 11839n9 1183An7
  11930-11938s 1193B-1193Cn 1193Ds9 1193En9 11940s 11942s 11943n7 119D1-119D3s 119D4-119DBn
  119DC-119DFs 119E0n9 119E4s 11A01-11A0An 11A33n 11A34n9 11A35-11A38n 11A39s 11A3B-11A3En 11A47n9
  11A51-11A56n 11A57-11A58s 11A59-11A5Bn 11A8A-11A96n 11A97s 11A98n 11A99n9 11B60n 11B61s
  11B62-11B64n 11B65s 11B66n 11B67s 11C2Fs 11C30-11C3Dn 11C3Es 11C3Fn9 11C92-11CA7n 11CA9s
  11CAA-11CB0n 11CB1s 11CB2-11CB3n 11CB4s 11CB5-11CB6n 11D31-11D41n 11D42n7 11D43n 11D44-11D45n9
  11D47n 11D8A-11D8Es 11D90-11D91n 11D93-11D94s 11D95n 11D96s 11D97n9 11EF3-11EF4n 11EF5-11EF6s
  11F00-11F01n 11F03s 11F34-11F35s 11F36-11F3An 11F3E-11F3Fs 11F40n 11F41s9 11F42n9 11F5An 13440n
  13447-13455n 1611E-16129n 1612A-1612Cs 1612D-1612En 1612Fn9 16AF0-16AF4n1 16B30-16B36n230 16F4Fn
  16F51-16F87s 16F8F-16F92n 16FE4n 16FF0-16FF1s6 1BC9Dn 1BC9En1 1CF00-1CF46n 1D165-1D166s216
  1D167-1D169n1 1D16Ds226 1D16E-1D172s216 1D17B-1D182n220 1D185-1D189n230 1D18A-1D18Bn220
  1D1AA-1D1ADn230 1D242-1D244n230 1DA00-1DA36n 1DA3B-1DA6Cn 1DA75n 1DA84n 1DA9B-1DAAFn
  1E000-1E02An230 1E08Fn230 1E130-1E136n230 1E2AEn230 1E2EC-1E2EFn230 1E4EC-1E4EDn232 1E4EEn220
  1E4EFn230 1E5EEn230 1E5EFn220 1E6E3n230 1E6E6n230 1E6EE-1E6EFn230 1E6F5n230 1E8D0-1E8D6n220
  1E944-1E949n230 1E94An7 E0100-E01EFn"

end Mark

def mark? (c : Char) : Option Mark := (Mark.table.find? c).map Span.value

def isMark (c : Char) : Bool := (mark? c).isSome

def isNonspacingMark (c : Char) : Bool := (mark? c).any Mark.isNonspacing

/-- The class of a mark; zero for all other characters. -/
def combiningClass (c : Char) : Nat := ((mark? c).map Mark.combiningClass).getD 0

end ChainLens.Text
