import Lookalike.Text.CodePoints

/-!
# Combining classes and canonical compositions

The canonical combining classes that order marks, and the pairs of characters that
canonical composition joins into one.  Hangul syllables are composed by arithmetic.
-/

namespace Lookalike

/-- The code points with a combining class other than zero, each range with its class. -/
def combiningClasses : CodePointClasses :=
  .ofLines #[
    "300-314=E6 315=E8 316-319=DC 31A=E8 31B=D8 31C-320=DC 321-322=CA 323-326=DC 327-328=CA",
    "329-333=DC 334-338=1 339-33C=DC 33D-344=E6 345=F0 346=E6 347-349=DC 34A-34C=E6 34D-34E=DC",
    "350-352=E6 353-356=DC 357=E6 358=E8 359-35A=DC 35B=E6 35C=E9 35D-35E=EA 35F=E9 360-361=EA",
    "362=E9 363-36F=E6 483-487=E6 591=DC 592-595=E6 596=DC 597-599=E6 59A=DE 59B=DC 59C-5A1=E6",
    "5A2-5A7=DC 5A8-5A9=E6 5AA=DC 5AB-5AC=E6 5AD=DE 5AE=E4 5AF=E6 5B0=A 5B1=B 5B2=C 5B3=D 5B4=E",
    "5B5=F 5B6=10 5B7=11 5B8=12 5B9-5BA=13 5BB=14 5BC=15 5BD=16 5BF=17 5C1=18 5C2=19 5C4=E6",
    "5C5=DC 5C7=12 610-617=E6 618=1E 619=1F 61A=20 64B=1B 64C=1C 64D=1D 64E=1E 64F=1F 650=20",
    "651=21 652=22 653-654=E6 655-656=DC 657-65B=E6 65C=DC 65D-65E=E6 65F=DC 670=23 6D6-6DC=E6",
    "6DF-6E2=E6 6E3=DC 6E4=E6 6E7-6E8=E6 6EA=DC 6EB-6EC=E6 6ED=DC 711=24 730=E6 731=DC 732-733=E6",
    "734=DC 735-736=E6 737-739=DC 73A=E6 73B-73C=DC 73D=E6 73E=DC 73F-741=E6 742=DC 743=E6 744=DC",
    "745=E6 746=DC 747=E6 748=DC 749-74A=E6 7EB-7F1=E6 7F2=DC 7F3=E6 7FD=DC 816-819=E6 81B-823=E6",
    "825-827=E6 829-82D=E6 859-85B=DC 898=E6 899-89B=DC 89C-89F=E6 8CA-8CE=E6 8CF-8D3=DC",
    "8D4-8E1=E6 8E3=DC 8E4-8E5=E6 8E6=DC 8E7-8E8=E6 8E9=DC 8EA-8EC=E6 8ED-8EF=DC 8F0=1B 8F1=1C",
    "8F2=1D 8F3-8F5=E6 8F6=DC 8F7-8F8=E6 8F9-8FA=DC 8FB-8FF=E6 93C=7 94D=9 951=E6 952=DC",
    "953-954=E6 9BC=7 9CD=9 9FE=E6 A3C=7 A4D=9 ABC=7 ACD=9 B3C=7 B4D=9 BCD=9 C3C=7 C4D=9 C55=54",
    "C56=5B CBC=7 CCD=9 D3B-D3C=9 D4D=9 DCA=9 E38-E39=67 E3A=9 E48-E4B=6B EB8-EB9=76 EBA=9",
    "EC8-ECB=7A F18-F19=DC F35=DC F37=DC F39=D8 F71=81 F72=82 F74=84 F7A-F7D=82 F80=82 F82-F83=E6",
    "F84=9 F86-F87=E6 FC6=DC 1037=7 1039-103A=9 108D=DC 135D-135F=E6 1714-1715=9 1734=9 17D2=9",
    "17DD=E6 18A9=E4 1939=DE 193A=E6 193B=DC 1A17=E6 1A18=DC 1A60=9 1A75-1A7C=E6 1A7F=DC",
    "1AB0-1AB4=E6 1AB5-1ABA=DC 1ABB-1ABC=E6 1ABD=DC 1ABF-1AC0=DC 1AC1-1AC2=E6 1AC3-1AC4=DC",
    "1AC5-1AC9=E6 1ACA=DC 1ACB-1ACE=E6 1B34=7 1B44=9 1B6B=E6 1B6C=DC 1B6D-1B73=E6 1BAA-1BAB=9",
    "1BE6=7 1BF2-1BF3=9 1C37=7 1CD0-1CD2=E6 1CD4=1 1CD5-1CD9=DC 1CDA-1CDB=E6 1CDC-1CDF=DC 1CE0=E6",
    "1CE2-1CE8=1 1CED=DC 1CF4=E6 1CF8-1CF9=E6 1DC0-1DC1=E6 1DC2=DC 1DC3-1DC9=E6 1DCA=DC",
    "1DCB-1DCC=E6 1DCD=EA 1DCE=D6 1DCF=DC 1DD0=CA 1DD1-1DF5=E6 1DF6=E8 1DF7-1DF8=E4 1DF9=DC",
    "1DFA=DA 1DFB=E6 1DFC=E9 1DFD=DC 1DFE=E6 1DFF=DC 20D0-20D1=E6 20D2-20D3=1 20D4-20D7=E6",
    "20D8-20DA=1 20DB-20DC=E6 20E1=E6 20E5-20E6=1 20E7=E6 20E8=DC 20E9=E6 20EA-20EB=1",
    "20EC-20EF=DC 20F0=E6 2CEF-2CF1=E6 2D7F=9 2DE0-2DFF=E6 302A=DA 302B=E4 302C=E8 302D=DE",
    "302E-302F=E0 3099-309A=8 A66F=E6 A674-A67D=E6 A69E-A69F=E6 A6F0-A6F1=E6 A806=9 A82C=9 A8C4=9",
    "A8E0-A8F1=E6 A92B-A92D=DC A953=9 A9B3=7 A9C0=9 AAB0=E6 AAB2-AAB3=E6 AAB4=DC AAB7-AAB8=E6",
    "AABE-AABF=E6 AAC1=E6 AAF6=9 ABED=9 FB1E=1A FE20-FE26=E6 FE27-FE2D=DC FE2E-FE2F=E6 101FD=DC",
    "102E0=DC 10376-1037A=E6 10A0D=DC 10A0F=E6 10A38=E6 10A39=1 10A3A=DC 10A3F=9 10AE5=E6",
    "10AE6=DC 10D24-10D27=E6 10EAB-10EAC=E6 10F46-10F47=DC 10F48-10F4A=E6 10F4B=DC 10F4C=E6",
    "10F4D-10F50=DC 10F82=E6 10F83=DC 10F84=E6 10F85=DC 11046=9 11070=9 1107F=9 110B9=9 110BA=7",
    "11100-11102=E6 11133-11134=9 11173=7 111C0=9 111CA=7 11235=9 11236=7 112E9=7 112EA=9",
    "1133B-1133C=7 1134D=9 11366-1136C=E6 11370-11374=E6 11442=9 11446=7 1145E=E6 114C2=9 114C3=7",
    "115BF=9 115C0=7 1163F=9 116B6=9 116B7=7 1172B=9 11839=9 1183A=7 1193D-1193E=9 11943=7",
    "119E0=9 11A34=9 11A47=9 11A99=9 11C3F=9 11D42=7 11D44-11D45=9 11D97=9 16AF0-16AF4=1",
    "16B30-16B36=E6 16FF0-16FF1=6 1BC9E=1 1D165-1D166=D8 1D167-1D169=1 1D16D=E2 1D16E-1D172=D8",
    "1D17B-1D182=DC 1D185-1D189=E6 1D18A-1D18B=DC 1D1AA-1D1AD=E6 1D242-1D244=E6 1E000-1E006=E6",
    "1E008-1E018=E6 1E01B-1E021=E6 1E023-1E024=E6 1E026-1E02A=E6 1E130-1E136=E6 1E2AE=E6",
    "1E2EC-1E2EF=E6 1E8D0-1E8D6=DC 1E944-1E949=E6 1E94A=7"]

/-- The composed forms: a first and a second character with the character that they make. -/
def composedForms : CodePointMap :=
  .ofLines #[
    "3FC0338=226E 40D0338=2260 41E0338=226F 4510300=C0 4510301=C1 4510302=C2 4510303=C3",
    "4510304=100 4510306=102 4510307=226 4510308=C4 4510309=1EA2 451030A=C5 451030C=1CD",
    "451030F=200 4510311=202 4510323=1EA0 4510325=1E00 4510328=104 4620307=1E02 4620323=1E04",
    "4620331=1E06 4730301=106 4730302=108 4730307=10A 473030C=10C 4730327=C7 4840307=1E0A",
    "484030C=10E 4840323=1E0C 4840327=1E10 484032D=1E12 4840331=1E0E 4950300=C8 4950301=C9",
    "4950302=CA 4950303=1EBC 4950304=112 4950306=114 4950307=116 4950308=CB 4950309=1EBA",
    "495030C=11A 495030F=204 4950311=206 4950323=1EB8 4950327=228 4950328=118 495032D=1E18",
    "4950330=1E1A 4A60307=1E1E 4B70301=1F4 4B70302=11C 4B70304=1E20 4B70306=11E 4B70307=120",
    "4B7030C=1E6 4B70327=122 4C80302=124 4C80307=1E22 4C80308=1E26 4C8030C=21E 4C80323=1E24",
    "4C80327=1E28 4C8032E=1E2A 4D90300=CC 4D90301=CD 4D90302=CE 4D90303=128 4D90304=12A",
    "4D90306=12C 4D90307=130 4D90308=CF 4D90309=1EC8 4D9030C=1CF 4D9030F=208 4D90311=20A",
    "4D90323=1ECA 4D90328=12E 4D90330=1E2C 4EA0302=134 4FB0301=1E30 4FB030C=1E8 4FB0323=1E32",
    "4FB0327=136 4FB0331=1E34 50C0301=139 50C030C=13D 50C0323=1E36 50C0327=13B 50C032D=1E3C",
    "50C0331=1E3A 51D0301=1E3E 51D0307=1E40 51D0323=1E42 52E0300=1F8 52E0301=143 52E0303=D1",
    "52E0307=1E44 52E030C=147 52E0323=1E46 52E0327=145 52E032D=1E4A 52E0331=1E48 53F0300=D2",
    "53F0301=D3 53F0302=D4 53F0303=D5 53F0304=14C 53F0306=14E 53F0307=22E 53F0308=D6 53F0309=1ECE",
    "53F030B=150 53F030C=1D1 53F030F=20C 53F0311=20E 53F031B=1A0 53F0323=1ECC 53F0328=1EA",
    "5500301=1E54 5500307=1E56 5720301=154 5720307=1E58 572030C=158 572030F=210 5720311=212",
    "5720323=1E5A 5720327=156 5720331=1E5E 5830301=15A 5830302=15C 5830307=1E60 583030C=160",
    "5830323=1E62 5830326=218 5830327=15E 5940307=1E6A 594030C=164 5940323=1E6C 5940326=21A",
    "5940327=162 594032D=1E70 5940331=1E6E 5A50300=D9 5A50301=DA 5A50302=DB 5A50303=168",
    "5A50304=16A 5A50306=16C 5A50308=DC 5A50309=1EE6 5A5030A=16E 5A5030B=170 5A5030C=1D3",
    "5A5030F=214 5A50311=216 5A5031B=1AF 5A50323=1EE4 5A50324=1E72 5A50328=172 5A5032D=1E76",
    "5A50330=1E74 5B60303=1E7C 5B60323=1E7E 5C70300=1E80 5C70301=1E82 5C70302=174 5C70307=1E86",
    "5C70308=1E84 5C70323=1E88 5D80307=1E8A 5D80308=1E8C 5E90300=1EF2 5E90301=DD 5E90302=176",
    "5E90303=1EF8 5E90304=232 5E90307=1E8E 5E90308=178 5E90309=1EF6 5E90323=1EF4 5FA0301=179",
    "5FA0302=1E90 5FA0307=17B 5FA030C=17D 5FA0323=1E92 5FA0331=1E94 6710300=E0 6710301=E1",
    "6710302=E2 6710303=E3 6710304=101 6710306=103 6710307=227 6710308=E4 6710309=1EA3 671030A=E5",
    "671030C=1CE 671030F=201 6710311=203 6710323=1EA1 6710325=1E01 6710328=105 6820307=1E03",
    "6820323=1E05 6820331=1E07 6930301=107 6930302=109 6930307=10B 693030C=10D 6930327=E7",
    "6A40307=1E0B 6A4030C=10F 6A40323=1E0D 6A40327=1E11 6A4032D=1E13 6A40331=1E0F 6B50300=E8",
    "6B50301=E9 6B50302=EA 6B50303=1EBD 6B50304=113 6B50306=115 6B50307=117 6B50308=EB",
    "6B50309=1EBB 6B5030C=11B 6B5030F=205 6B50311=207 6B50323=1EB9 6B50327=229 6B50328=119",
    "6B5032D=1E19 6B50330=1E1B 6C60307=1E1F 6D70301=1F5 6D70302=11D 6D70304=1E21 6D70306=11F",
    "6D70307=121 6D7030C=1E7 6D70327=123 6E80302=125 6E80307=1E23 6E80308=1E27 6E8030C=21F",
    "6E80323=1E25 6E80327=1E29 6E8032E=1E2B 6E80331=1E96 6F90300=EC 6F90301=ED 6F90302=EE",
    "6F90303=129 6F90304=12B 6F90306=12D 6F90308=EF 6F90309=1EC9 6F9030C=1D0 6F9030F=209",
    "6F90311=20B 6F90323=1ECB 6F90328=12F 6F90330=1E2D 70A0302=135 70A030C=1F0 71B0301=1E31",
    "71B030C=1E9 71B0323=1E33 71B0327=137 71B0331=1E35 72C0301=13A 72C030C=13E 72C0323=1E37",
    "72C0327=13C 72C032D=1E3D 72C0331=1E3B 73D0301=1E3F 73D0307=1E41 73D0323=1E43 74E0300=1F9",
    "74E0301=144 74E0303=F1 74E0307=1E45 74E030C=148 74E0323=1E47 74E0327=146 74E032D=1E4B",
    "74E0331=1E49 75F0300=F2 75F0301=F3 75F0302=F4 75F0303=F5 75F0304=14D 75F0306=14F 75F0307=22F",
    "75F0308=F6 75F0309=1ECF 75F030B=151 75F030C=1D2 75F030F=20D 75F0311=20F 75F031B=1A1",
    "75F0323=1ECD 75F0328=1EB 7700301=1E55 7700307=1E57 7920301=155 7920307=1E59 792030C=159",
    "792030F=211 7920311=213 7920323=1E5B 7920327=157 7920331=1E5F 7A30301=15B 7A30302=15D",
    "7A30307=1E61 7A3030C=161 7A30323=1E63 7A30326=219 7A30327=15F 7B40307=1E6B 7B40308=1E97",
    "7B4030C=165 7B40323=1E6D 7B40326=21B 7B40327=163 7B4032D=1E71 7B40331=1E6F 7C50300=F9",
    "7C50301=FA 7C50302=FB 7C50303=169 7C50304=16B 7C50306=16D 7C50308=FC 7C50309=1EE7",
    "7C5030A=16F 7C5030B=171 7C5030C=1D4 7C5030F=215 7C50311=217 7C5031B=1B0 7C50323=1EE5",
    "7C50324=1E73 7C50328=173 7C5032D=1E77 7C50330=1E75 7D60303=1E7D 7D60323=1E7F 7E70300=1E81",
    "7E70301=1E83 7E70302=175 7E70307=1E87 7E70308=1E85 7E7030A=1E98 7E70323=1E89 7F80307=1E8B",
    "7F80308=1E8D 8090300=1EF3 8090301=FD 8090302=177 8090303=1EF9 8090304=233 8090307=1E8F",
    "8090308=FF 8090309=1EF7 809030A=1E99 8090323=1EF5 81A0301=17A 81A0302=1E91 81A0307=17C",
    "81A030C=17E 81A0323=1E93 81A0331=1E95 B280300=1FED B280301=385 B280342=1FC1 CE20300=1EA6",
    "CE20301=1EA4 CE20303=1EAA CE20309=1EA8 D040304=1DE D150301=1FA D260301=1FC D260304=1E2",
    "D370301=1E08 D6A0300=1EC0 D6A0301=1EBE D6A0303=1EC4 D6A0309=1EC2 DBF0301=1E2E E140300=1ED2",
    "E140301=1ED0 E140303=1ED6 E140309=1ED4 E250301=1E4C E250304=22C E250308=1E4E E360304=22A",
    "E580301=1FE E9C0300=1DB E9C0301=1D7 E9C0304=1D5 E9C030C=1D9 F020300=1EA7 F020301=1EA5",
    "F020303=1EAB F020309=1EA9 F240304=1DF F350301=1FB F460301=1FD F460304=1E3 F570301=1E09",
    "F8A0300=1EC1 F8A0301=1EBF F8A0303=1EC5 F8A0309=1EC3 FDF0301=1E2F 10340300=1ED3 10340301=1ED1",
    "10340303=1ED7 10340309=1ED5 10450301=1E4D 10450304=22D 10450308=1E4F 10560304=22B",
    "10780301=1FF 10BC0300=1DC 10BC0301=1D8 10BC0304=1D6 10BC030C=1DA 11220300=1EB0 11220301=1EAE",
    "11220303=1EB4 11220309=1EB2 11330300=1EB1 11330301=1EAF 11330303=1EB5 11330309=1EB3",
    "12320300=1E14 12320301=1E16 12430300=1E15 12430301=1E17 160C0300=1E50 160C0301=1E52",
    "161D0300=1E51 161D0301=1E53 16FA0307=1E64 170B0307=1E65 17600307=1E66 17710307=1E67",
    "17E80301=1E78 17F90301=1E79 180A0308=1E7A 181B0308=1E7B 196F0307=1E9B 1BA00300=1EDC",
    "1BA00301=1EDA 1BA00303=1EE0 1BA00309=1EDE 1BA00323=1EE2 1BB10300=1EDD 1BB10301=1EDB",
    "1BB10303=1EE1 1BB10309=1EDF 1BB10323=1EE3 1C9F0300=1EEA 1C9F0301=1EE8 1C9F0303=1EEE",
    "1C9F0309=1EEC 1C9F0323=1EF0 1CB00300=1EEB 1CB00301=1EE9 1CB00303=1EEF 1CB00309=1EED",
    "1CB00323=1EF1 1D27030C=1EE 208A0304=1EC 209B0304=1ED 24860304=1E0 24970304=1E1 24A80306=1E1C",
    "24B90306=1E1D 250E0304=230 251F0304=231 2BB2030C=1EF 3CA10300=1FBA 3CA10301=386",
    "3CA10304=1FB9 3CA10306=1FB8 3CA10313=1F08 3CA10314=1F09 3CA10345=1FBC 3CE50300=1FC8",
    "3CE50301=388 3CE50313=1F18 3CE50314=1F19 3D070300=1FCA 3D070301=389 3D070313=1F28",
    "3D070314=1F29 3D070345=1FCC 3D290300=1FDA 3D290301=38A 3D290304=1FD9 3D290306=1FD8",
    "3D290308=3AA 3D290313=1F38 3D290314=1F39 3D8F0300=1FF8 3D8F0301=38C 3D8F0313=1F48",
    "3D8F0314=1F49 3DB10314=1FEC 3DF50300=1FEA 3DF50301=38E 3DF50304=1FE9 3DF50306=1FE8",
    "3DF50308=3AB 3DF50314=1F59 3E390300=1FFA 3E390301=38F 3E390313=1F68 3E390314=1F69",
    "3E390345=1FFC 3E6C0345=1FB4 3E8E0345=1FC4 3EC10300=1F70 3EC10301=3AC 3EC10304=1FB1",
    "3EC10306=1FB0 3EC10313=1F00 3EC10314=1F01 3EC10342=1FB6 3EC10345=1FB3 3F050300=1F72",
    "3F050301=3AD 3F050313=1F10 3F050314=1F11 3F270300=1F74 3F270301=3AE 3F270313=1F20",
    "3F270314=1F21 3F270342=1FC6 3F270345=1FC3 3F490300=1F76 3F490301=3AF 3F490304=1FD1",
    "3F490306=1FD0 3F490308=3CA 3F490313=1F30 3F490314=1F31 3F490342=1FD6 3FAF0300=1F78",
    "3FAF0301=3CC 3FAF0313=1F40 3FAF0314=1F41 3FD10313=1FE4 3FD10314=1FE5 40150300=1F7A",
    "40150301=3CD 40150304=1FE1 40150306=1FE0 40150308=3CB 40150313=1F50 40150314=1F51",
    "40150342=1FE6 40590300=1F7C 40590301=3CE 40590313=1F60 40590314=1F61 40590342=1FF6",
    "40590345=1FF3 406A0300=1FD2 406A0301=390 406A0342=1FD7 407B0300=1FE2 407B0301=3B0",
    "407B0342=1FE7 40AE0345=1FF4 40F20301=3D3 40F20308=3D4 44660308=407 45100306=4D0 45100308=4D2",
    "45430301=403 45650300=400 45650306=4D6 45650308=401 45760306=4C1 45760308=4DC 45870308=4DE",
    "45980300=40D 45980304=4E2 45980306=419 45980308=4E4 45BA0301=40C 45FE0308=4E6 46530304=4EE",
    "46530306=40E 46530308=4F0 4653030B=4F2 46970308=4F4 46DB0308=4F8 46FD0308=4EC 47300306=4D1",
    "47300308=4D3 47630301=453 47850300=450 47850306=4D7 47850308=451 47960306=4C2 47960308=4DD",
    "47A70308=4DF 47B80300=45D 47B80304=4E3 47B80306=439 47B80308=4E5 47DA0301=45C 481E0308=4E7",
    "48730304=4EF 48730306=45E 48730308=4F1 4873030B=4F3 48B70308=4F5 48FB0308=4F9 491D0308=4ED",
    "49B60308=457 4BB4030F=476 4BC5030F=477 52580308=4DA 52690308=4DB 53680308=4EA 53790308=4EB",
    "68970653=622 68970654=623 68970655=625 6AC80654=624 6AEA0654=626 72D10654=6C2 73F20654=6D3",
    "74250654=6C0 9BA8093C=929 9C30093C=931 9C63093C=934 A63709BE=9CB A63709D7=9CC BFB70B3E=B4B",
    "BFB70B56=B48 BFB70B57=B4C C4B20BD7=B94 C8260BBE=BCA C8260BD7=BCC C8370BBE=BCB D0A60C56=C48",
    "D8AF0CD5=CC0 D9260CC2=CCA D9260CD5=CC7 D9260CD6=CC8 D96A0CD5=CCB E1A60D3E=D4A E1A60D57=D4C",
    "E1B70D3E=D4B EB690DCA=DDA EB690DCF=DDC EB690DDF=DDE EB9C0DCA=DDD 11275102E=1026",
    "1CB551B35=1B06 1CB771B35=1B08 1CB991B35=1B0A 1CBBB1B35=1B0C 1CBDD1B35=1B0E 1CC211B35=1B12",
    "1CEDA1B35=1B3B 1CEFC1B35=1B3D 1CF1E1B35=1B40 1CF2F1B35=1B41 1CF621B35=1B43 201960304=1E38",
    "201A70304=1E39 203FA0304=1E5C 2040B0304=1E5D 204820307=1E68 204930307=1E69 208A00302=1EAC",
    "208A00306=1EB6 208B10302=1EAD 208B10306=1EB7 20A380302=1EC6 20A490302=1EC7 20B8C0302=1ED8",
    "20B9D0302=1ED9 20F000300=1F02 20F000301=1F04 20F000342=1F06 20F000345=1F80 20F110300=1F03",
    "20F110301=1F05 20F110342=1F07 20F110345=1F81 20F220345=1F82 20F330345=1F83 20F440345=1F84",
    "20F550345=1F85 20F660345=1F86 20F770345=1F87 20F880300=1F0A 20F880301=1F0C 20F880342=1F0E",
    "20F880345=1F88 20F990300=1F0B 20F990301=1F0D 20F990342=1F0F 20F990345=1F89 20FAA0345=1F8A",
    "20FBB0345=1F8B 20FCC0345=1F8C 20FDD0345=1F8D 20FEE0345=1F8E 20FFF0345=1F8F 210100300=1F12",
    "210100301=1F14 210210300=1F13 210210301=1F15 210980300=1F1A 210980301=1F1C 210A90300=1F1B",
    "210A90301=1F1D 211200300=1F22 211200301=1F24 211200342=1F26 211200345=1F90 211310300=1F23",
    "211310301=1F25 211310342=1F27 211310345=1F91 211420345=1F92 211530345=1F93 211640345=1F94",
    "211750345=1F95 211860345=1F96 211970345=1F97 211A80300=1F2A 211A80301=1F2C 211A80342=1F2E",
    "211A80345=1F98 211B90300=1F2B 211B90301=1F2D 211B90342=1F2F 211B90345=1F99 211CA0345=1F9A",
    "211DB0345=1F9B 211EC0345=1F9C 211FD0345=1F9D 2120E0345=1F9E 2121F0345=1F9F 212300300=1F32",
    "212300301=1F34 212300342=1F36 212410300=1F33 212410301=1F35 212410342=1F37 212B80300=1F3A",
    "212B80301=1F3C 212B80342=1F3E 212C90300=1F3B 212C90301=1F3D 212C90342=1F3F 213400300=1F42",
    "213400301=1F44 213510300=1F43 213510301=1F45 213C80300=1F4A 213C80301=1F4C 213D90300=1F4B",
    "213D90301=1F4D 214500300=1F52 214500301=1F54 214500342=1F56 214610300=1F53 214610301=1F55",
    "214610342=1F57 214E90300=1F5B 214E90301=1F5D 214E90342=1F5F 215600300=1F62 215600301=1F64",
    "215600342=1F66 215600345=1FA0 215710300=1F63 215710301=1F65 215710342=1F67 215710345=1FA1",
    "215820345=1FA2 215930345=1FA3 215A40345=1FA4 215B50345=1FA5 215C60345=1FA6 215D70345=1FA7",
    "215E80300=1F6A 215E80301=1F6C 215E80342=1F6E 215E80345=1FA8 215F90300=1F6B 215F90301=1F6D",
    "215F90342=1F6F 215F90345=1FA9 2160A0345=1FAA 2161B0345=1FAB 2162C0345=1FAC 2163D0345=1FAD",
    "2164E0345=1FAE 2165F0345=1FAF 216700345=1FB2 216B40345=1FC2 2173C0345=1FF2 21B160345=1FB7",
    "21BAF0300=1FCD 21BAF0301=1FCE 21BAF0342=1FCF 21C260345=1FC7 21F560345=1FF7 21FDE0300=1FDD",
    "21FDE0301=1FDE 21FDE0342=1FDF 23A900338=219A 23AB20338=219B 23AD40338=21AE 23ED00338=21CD",
    "23EF20338=21CF 23F140338=21CE 242330338=2204 242880338=2209 242BB0338=220C 244530338=2224",
    "244750338=2226 245FC0338=2241 246730338=2244 246950338=2247 246C80338=2249 2471D0338=226D",
    "248710338=2262 248A40338=2270 248B50338=2271 249920338=2274 249A30338=2275 249D60338=2278",
    "249E70338=2279 24A1A0338=2280 24A2B0338=2281 24A3C0338=22E0 24A4D0338=22E1 24AA20338=2284",
    "24AB30338=2285 24AE60338=2288 24AF70338=2289 24BA10338=22E2 24BB20338=22E3 24CC20338=22AC",
    "24D280338=22AD 24D390338=22AE 24D5B0338=22AF 24DD20338=22EA 24DE30338=22EB 24DF40338=22EC",
    "24E050338=22ED 334A63099=3094 334FB3099=304C 3351D3099=304E 3353F3099=3050 335613099=3052",
    "335833099=3054 335A53099=3056 335C73099=3058 335E93099=305A 3360B3099=305C 3362D3099=305E",
    "3364F3099=3060 336713099=3062 336A43099=3065 336C63099=3067 336E83099=3069 3375F3099=3070",
    "3375F309A=3071 337923099=3073 33792309A=3074 337C53099=3076 337C5309A=3077 337F83099=3079",
    "337F8309A=307A 3382B3099=307C 3382B309A=307D 33A6D3099=309E 33B063099=30F4 33B5B3099=30AC",
    "33B7D3099=30AE 33B9F3099=30B0 33BC13099=30B2 33BE33099=30B4 33C053099=30B6 33C273099=30B8",
    "33C493099=30BA 33C6B3099=30BC 33C8D3099=30BE 33CAF3099=30C0 33CD13099=30C2 33D043099=30C5",
    "33D263099=30C7 33D483099=30C9 33DBF3099=30D0 33DBF309A=30D1 33DF23099=30D3 33DF2309A=30D4",
    "33E253099=30D6 33E25309A=30D7 33E583099=30D9 33E58309A=30DA 33E8B3099=30DC 33E8B309A=30DD",
    "33FDF3099=30F7 33FF03099=30F8 340013099=30F9 340123099=30FA 340CD3099=30FE 121A2A10BA=1109A",
    "121A4C10BA=1109C 121AF610BA=110AB 1224421127=1112E 1224531127=1112F 1247B8133E=1134B",
    "1247B81357=1134C 12604A14B0=114BC 12604A14BA=114BB 12604A14BD=114BE 12713915AF=115BA",
    "12714A15AF=115BB 12AC861930=11938"]

end Lookalike
