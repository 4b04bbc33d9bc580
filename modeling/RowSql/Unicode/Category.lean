import RowSql.Unicode.Table
/-!
# Category — general categories

Every code point has a general category, such as `Lu` for upper-case letters.  The properties below are stated
on it, and on short tables of the characters that have the property in spite of their category.
-/
namespace RowSql
namespace Unicode

/-- **A general category**: a class (letter `L`, mark `M`, number `N`, punctuation `P`, symbol `S`, separator `Z`, other
`C`) and a kind within it. -/
structure Category where
  group : Char
  kind : Char
deriving DecidableEq, Inhabited

/-- The runs of one category; two categories joined by a stroke alternate from the first code point on.  What is in no
run is unassigned. -/
def categoryTable : Array Run := table
  "0-1F:Cc 20:Zs 21-23:Po 24:Sc 25-27:Po 28:Ps 29:Pe 2A:Po 2B:Sm 2C:Po 2D:Pd 2E-2F:Po 30-39:Nd 3A-3B:Po 3C-3E:Sm
   3F-40:Po 41-5A:Lu 5B:Ps 5C:Po 5D:Pe 5E:Sk 5F:Pc 60:Sk 61-7A:Ll 7B:Ps 7C:Sm 7D:Pe 7E:Sm 7F-9F:Cc A0:Zs A1:Po
   A2-A5:Sc A6:So A7:Po A8:Sk A9:So AA:Lo AB:Pi AC:Sm AD:Cf AE:So AF:Sk B0:So B1:Sm B2-B3:No B4:Sk B5:Ll B6-B7:Po
   B8:Sk B9:No BA:Lo BB:Pf BC-BE:No BF:Po C0-D6:Lu D7:Sm D8-DE:Lu DF-F6:Ll F7:Sm F8-FF:Ll 100-136:Lu/Ll 137-138:Ll
   139-147:Lu/Ll 148-149:Ll 14A-177:Lu/Ll 178-179:Lu 17A-17D:Ll/Lu 17E-180:Ll 181-182:Lu 183-185:Ll/Lu 186-187:Lu
   188:Ll 189-18B:Lu 18C-18D:Ll 18E-191:Lu 192:Ll 193-194:Lu 195:Ll 196-198:Lu 199-19B:Ll 19C-19D:Lu 19E:Ll
   19F-1A0:Lu 1A1-1A5:Ll/Lu 1A6-1A7:Lu 1A8:Ll 1A9:Lu 1AA-1AB:Ll 1AC:Lu 1AD:Ll 1AE-1AF:Lu 1B0:Ll 1B1-1B3:Lu
   1B4-1B6:Ll/Lu 1B7-1B8:Lu 1B9-1BA:Ll 1BB:Lo 1BC:Lu 1BD-1BF:Ll 1C0-1C3:Lo 1C4:Lu 1C5:Lt 1C6:Ll 1C7:Lu 1C8:Lt
   1C9:Ll 1CA:Lu 1CB:Lt 1CC-1DB:Ll/Lu 1DC-1DD:Ll 1DE-1EE:Lu/Ll 1EF-1F0:Ll 1F1:Lu 1F2:Lt 1F3-1F5:Ll/Lu 1F6-1F8:Lu
   1F9-232:Ll/Lu 233-239:Ll 23A-23B:Lu 23C:Ll 23D-23E:Lu 23F-240:Ll 241:Lu 242:Ll 243-246:Lu 247-24E:Ll/Lu
   24F-293:Ll 294:Lo 295-2AF:Ll 2B0-2C1:Lm 2C2-2C5:Sk 2C6-2D1:Lm 2D2-2DF:Sk 2E0-2E4:Lm 2E5-2EB:Sk 2EC:Lm 2ED:Sk
   2EE:Lm 2EF-2FF:Sk 300-36F:Mn 370-373:Lu/Ll 374:Lm 375:Sk 376:Lu 377:Ll 37A:Lm 37B-37D:Ll 37E:Po 37F:Lu
   384-385:Sk 386:Lu 387:Po 388-38A:Lu 38C:Lu 38E-38F:Lu 390:Ll 391-3A1:Lu 3A3-3AB:Lu 3AC-3CE:Ll 3CF:Lu 3D0-3D1:Ll
   3D2-3D4:Lu 3D5-3D7:Ll 3D8-3EE:Lu/Ll 3EF-3F3:Ll 3F4:Lu 3F5:Ll 3F6:Sm 3F7:Lu 3F8:Ll 3F9-3FA:Lu 3FB-3FC:Ll
   3FD-42F:Lu 430-45F:Ll 460-481:Lu/Ll 482:So 483-487:Mn 488-489:Me 48A-4BF:Lu/Ll 4C0-4C1:Lu 4C2-4CD:Ll/Lu
   4CE-4CF:Ll 4D0-52F:Lu/Ll 531-556:Lu 559:Lm 55A-55F:Po 560-588:Ll 589:Po 58A:Pd 58D-58E:So 58F:Sc 591-5BD:Mn
   5BE:Pd 5BF:Mn 5C0:Po 5C1-5C2:Mn 5C3:Po 5C4-5C5:Mn 5C6:Po 5C7:Mn 5D0-5EA:Lo 5EF-5F2:Lo 5F3-5F4:Po 600-605:Cf
   606-608:Sm 609-60A:Po 60B:Sc 60C-60D:Po 60E-60F:So 610-61A:Mn 61B:Po 61C:Cf 61D-61F:Po 620-63F:Lo 640:Lm
   641-64A:Lo 64B-65F:Mn 660-669:Nd 66A-66D:Po 66E-66F:Lo 670:Mn 671-6D3:Lo 6D4:Po 6D5:Lo 6D6-6DC:Mn 6DD:Cf 6DE:So
   6DF-6E4:Mn 6E5-6E6:Lm 6E7-6E8:Mn 6E9:So 6EA-6ED:Mn 6EE-6EF:Lo 6F0-6F9:Nd 6FA-6FC:Lo 6FD-6FE:So 6FF:Lo 700-70D:Po
   70F:Cf 710:Lo 711:Mn 712-72F:Lo 730-74A:Mn 74D-7A5:Lo 7A6-7B0:Mn 7B1:Lo 7C0-7C9:Nd 7CA-7EA:Lo 7EB-7F3:Mn
   7F4-7F5:Lm 7F6:So 7F7-7F9:Po 7FA:Lm 7FD:Mn 7FE-7FF:Sc 800-815:Lo 816-819:Mn 81A:Lm 81B-823:Mn 824:Lm 825-827:Mn
   828:Lm 829-82D:Mn 830-83E:Po 840-858:Lo 859-85B:Mn 85E:Po 860-86A:Lo 870-887:Lo 888:Sk 889-88E:Lo 890-891:Cf
   897-89F:Mn 8A0-8C8:Lo 8C9:Lm 8CA-8E1:Mn 8E2:Cf 8E3-902:Mn 903:Mc 904-939:Lo 93A:Mn 93B:Mc 93C:Mn 93D:Lo
   93E-940:Mc 941-948:Mn 949-94C:Mc 94D:Mn 94E-94F:Mc 950:Lo 951-957:Mn 958-961:Lo 962-963:Mn 964-965:Po 966-96F:Nd
   970:Po 971:Lm 972-980:Lo 981:Mn 982-983:Mc 985-98C:Lo 98F-990:Lo 993-9A8:Lo 9AA-9B0:Lo 9B2:Lo 9B6-9B9:Lo 9BC:Mn
   9BD:Lo 9BE-9C0:Mc 9C1-9C4:Mn 9C7-9C8:Mc 9CB-9CC:Mc 9CD:Mn 9CE:Lo 9D7:Mc 9DC-9DD:Lo 9DF-9E1:Lo 9E2-9E3:Mn
   9E6-9EF:Nd 9F0-9F1:Lo 9F2-9F3:Sc 9F4-9F9:No 9FA:So 9FB:Sc 9FC:Lo 9FD:Po 9FE:Mn A01-A02:Mn A03:Mc A05-A0A:Lo
   A0F-A10:Lo A13-A28:Lo A2A-A30:Lo A32-A33:Lo A35-A36:Lo A38-A39:Lo A3C:Mn A3E-A40:Mc A41-A42:Mn A47-A48:Mn
   A4B-A4D:Mn A51:Mn A59-A5C:Lo A5E:Lo A66-A6F:Nd A70-A71:Mn A72-A74:Lo A75:Mn A76:Po A81-A82:Mn A83:Mc A85-A8D:Lo
   A8F-A91:Lo A93-AA8:Lo AAA-AB0:Lo AB2-AB3:Lo AB5-AB9:Lo ABC:Mn ABD:Lo ABE-AC0:Mc AC1-AC5:Mn AC7-AC8:Mn AC9:Mc
   ACB-ACC:Mc ACD:Mn AD0:Lo AE0-AE1:Lo AE2-AE3:Mn AE6-AEF:Nd AF0:Po AF1:Sc AF9:Lo AFA-AFF:Mn B01:Mn B02-B03:Mc
   B05-B0C:Lo B0F-B10:Lo B13-B28:Lo B2A-B30:Lo B32-B33:Lo B35-B39:Lo B3C:Mn B3D:Lo B3E:Mc B3F:Mn B40:Mc B41-B44:Mn
   B47-B48:Mc B4B-B4C:Mc B4D:Mn B55-B56:Mn B57:Mc B5C-B5D:Lo B5F-B61:Lo B62-B63:Mn B66-B6F:Nd B70:So B71:Lo
   B72-B77:No B82:Mn B83:Lo B85-B8A:Lo B8E-B90:Lo B92-B95:Lo B99-B9A:Lo B9C:Lo B9E-B9F:Lo BA3-BA4:Lo BA8-BAA:Lo
   BAE-BB9:Lo BBE-BBF:Mc BC0:Mn BC1-BC2:Mc BC6-BC8:Mc BCA-BCC:Mc BCD:Mn BD0:Lo BD7:Mc BE6-BEF:Nd BF0-BF2:No
   BF3-BF8:So BF9:Sc BFA:So C00:Mn C01-C03:Mc C04:Mn C05-C0C:Lo C0E-C10:Lo C12-C28:Lo C2A-C39:Lo C3C:Mn C3D:Lo
   C3E-C40:Mn C41-C44:Mc C46-C48:Mn C4A-C4D:Mn C55-C56:Mn C58-C5A:Lo C5D:Lo C60-C61:Lo C62-C63:Mn C66-C6F:Nd C77:Po
   C78-C7E:No C7F:So C80:Lo C81:Mn C82-C83:Mc C84:Po C85-C8C:Lo C8E-C90:Lo C92-CA8:Lo CAA-CB3:Lo CB5-CB9:Lo CBC:Mn
   CBD:Lo CBE:Mc CBF:Mn CC0-CC4:Mc CC6:Mn CC7-CC8:Mc CCA-CCB:Mc CCC-CCD:Mn CD5-CD6:Mc CDD-CDE:Lo CE0-CE1:Lo
   CE2-CE3:Mn CE6-CEF:Nd CF1-CF2:Lo CF3:Mc D00-D01:Mn D02-D03:Mc D04-D0C:Lo D0E-D10:Lo D12-D3A:Lo D3B-D3C:Mn D3D:Lo
   D3E-D40:Mc D41-D44:Mn D46-D48:Mc D4A-D4C:Mc D4D:Mn D4E:Lo D4F:So D54-D56:Lo D57:Mc D58-D5E:No D5F-D61:Lo
   D62-D63:Mn D66-D6F:Nd D70-D78:No D79:So D7A-D7F:Lo D81:Mn D82-D83:Mc D85-D96:Lo D9A-DB1:Lo DB3-DBB:Lo DBD:Lo
   DC0-DC6:Lo DCA:Mn DCF-DD1:Mc DD2-DD4:Mn DD6:Mn DD8-DDF:Mc DE6-DEF:Nd DF2-DF3:Mc DF4:Po E01-E30:Lo E31:Mn
   E32-E33:Lo E34-E3A:Mn E3F:Sc E40-E45:Lo E46:Lm E47-E4E:Mn E4F:Po E50-E59:Nd E5A-E5B:Po E81-E82:Lo E84:Lo
   E86-E8A:Lo E8C-EA3:Lo EA5:Lo EA7-EB0:Lo EB1:Mn EB2-EB3:Lo EB4-EBC:Mn EBD:Lo EC0-EC4:Lo EC6:Lm EC8-ECE:Mn
   ED0-ED9:Nd EDC-EDF:Lo F00:Lo F01-F03:So F04-F12:Po F13:So F14:Po F15-F17:So F18-F19:Mn F1A-F1F:So F20-F29:Nd
   F2A-F33:No F34:So F35:Mn F36:So F37:Mn F38:So F39:Mn F3A:Ps F3B:Pe F3C:Ps F3D:Pe F3E-F3F:Mc F40-F47:Lo
   F49-F6C:Lo F71-F7E:Mn F7F:Mc F80-F84:Mn F85:Po F86-F87:Mn F88-F8C:Lo F8D-F97:Mn F99-FBC:Mn FBE-FC5:So FC6:Mn
   FC7-FCC:So FCE-FCF:So FD0-FD4:Po FD5-FD8:So FD9-FDA:Po 1000-102A:Lo 102B-102C:Mc 102D-1030:Mn 1031:Mc
   1032-1037:Mn 1038:Mc 1039-103A:Mn 103B-103C:Mc 103D-103E:Mn 103F:Lo 1040-1049:Nd 104A-104F:Po 1050-1055:Lo
   1056-1057:Mc 1058-1059:Mn 105A-105D:Lo 105E-1060:Mn 1061:Lo 1062-1064:Mc 1065-1066:Lo 1067-106D:Mc 106E-1070:Lo
   1071-1074:Mn 1075-1081:Lo 1082:Mn 1083-1084:Mc 1085-1086:Mn 1087-108C:Mc 108D:Mn 108E:Lo 108F:Mc 1090-1099:Nd
   109A-109C:Mc 109D:Mn 109E-109F:So 10A0-10C5:Lu 10C7:Lu 10CD:Lu 10D0-10FA:Ll 10FB:Po 10FC:Lm 10FD-10FF:Ll
   1100-1248:Lo 124A-124D:Lo 1250-1256:Lo 1258:Lo 125A-125D:Lo 1260-1288:Lo 128A-128D:Lo 1290-12B0:Lo 12B2-12B5:Lo
   12B8-12BE:Lo 12C0:Lo 12C2-12C5:Lo 12C8-12D6:Lo 12D8-1310:Lo 1312-1315:Lo 1318-135A:Lo 135D-135F:Mn 1360-1368:Po
   1369-137C:No 1380-138F:Lo 1390-1399:So 13A0-13F5:Lu 13F8-13FD:Ll 1400:Pd 1401-166C:Lo 166D:So 166E:Po
   166F-167F:Lo 1680:Zs 1681-169A:Lo 169B:Ps 169C:Pe 16A0-16EA:Lo 16EB-16ED:Po 16EE-16F0:Nl 16F1-16F8:Lo
   1700-1711:Lo 1712-1714:Mn 1715:Mc 171F-1731:Lo 1732-1733:Mn 1734:Mc 1735-1736:Po 1740-1751:Lo 1752-1753:Mn
   1760-176C:Lo 176E-1770:Lo 1772-1773:Mn 1780-17B3:Lo 17B4-17B5:Mn 17B6:Mc 17B7-17BD:Mn 17BE-17C5:Mc 17C6:Mn
   17C7-17C8:Mc 17C9-17D3:Mn 17D4-17D6:Po 17D7:Lm 17D8-17DA:Po 17DB:Sc 17DC:Lo 17DD:Mn 17E0-17E9:Nd 17F0-17F9:No
   1800-1805:Po 1806:Pd 1807-180A:Po 180B-180D:Mn 180E:Cf 180F:Mn 1810-1819:Nd 1820-1842:Lo 1843:Lm 1844-1878:Lo
   1880-1884:Lo 1885-1886:Mn 1887-18A8:Lo 18A9:Mn 18AA:Lo 18B0-18F5:Lo 1900-191E:Lo 1920-1922:Mn 1923-1926:Mc
   1927-1928:Mn 1929-192B:Mc 1930-1931:Mc 1932:Mn 1933-1938:Mc 1939-193B:Mn 1940:So 1944-1945:Po 1946-194F:Nd
   1950-196D:Lo 1970-1974:Lo 1980-19AB:Lo 19B0-19C9:Lo 19D0-19D9:Nd 19DA:No 19DE-19FF:So 1A00-1A16:Lo 1A17-1A18:Mn
   1A19-1A1A:Mc 1A1B:Mn 1A1E-1A1F:Po 1A20-1A54:Lo 1A55:Mc 1A56:Mn 1A57:Mc 1A58-1A5E:Mn 1A60:Mn 1A61:Mc 1A62:Mn
   1A63-1A64:Mc 1A65-1A6C:Mn 1A6D-1A72:Mc 1A73-1A7C:Mn 1A7F:Mn 1A80-1A89:Nd 1A90-1A99:Nd 1AA0-1AA6:Po 1AA7:Lm
   1AA8-1AAD:Po 1AB0-1ABD:Mn 1ABE:Me 1ABF-1ACE:Mn 1B00-1B03:Mn 1B04:Mc 1B05-1B33:Lo 1B34:Mn 1B35:Mc 1B36-1B3A:Mn
   1B3B:Mc 1B3C:Mn 1B3D-1B41:Mc 1B42:Mn 1B43-1B44:Mc 1B45-1B4C:Lo 1B4E-1B4F:Po 1B50-1B59:Nd 1B5A-1B60:Po
   1B61-1B6A:So 1B6B-1B73:Mn 1B74-1B7C:So 1B7D-1B7F:Po 1B80-1B81:Mn 1B82:Mc 1B83-1BA0:Lo 1BA1:Mc 1BA2-1BA5:Mn
   1BA6-1BA7:Mc 1BA8-1BA9:Mn 1BAA:Mc 1BAB-1BAD:Mn 1BAE-1BAF:Lo 1BB0-1BB9:Nd 1BBA-1BE5:Lo 1BE6:Mn 1BE7:Mc
   1BE8-1BE9:Mn 1BEA-1BEC:Mc 1BED:Mn 1BEE:Mc 1BEF-1BF1:Mn 1BF2-1BF3:Mc 1BFC-1BFF:Po 1C00-1C23:Lo 1C24-1C2B:Mc
   1C2C-1C33:Mn 1C34-1C35:Mc 1C36-1C37:Mn 1C3B-1C3F:Po 1C40-1C49:Nd 1C4D-1C4F:Lo 1C50-1C59:Nd 1C5A-1C77:Lo
   1C78-1C7D:Lm 1C7E-1C7F:Po 1C80-1C88:Ll 1C89:Lu 1C8A:Ll 1C90-1CBA:Lu 1CBD-1CBF:Lu 1CC0-1CC7:Po 1CD0-1CD2:Mn
   1CD3:Po 1CD4-1CE0:Mn 1CE1:Mc 1CE2-1CE8:Mn 1CE9-1CEC:Lo 1CED:Mn 1CEE-1CF3:Lo 1CF4:Mn 1CF5-1CF6:Lo 1CF7:Mc
   1CF8-1CF9:Mn 1CFA:Lo 1D00-1D2B:Ll 1D2C-1D6A:Lm 1D6B-1D77:Ll 1D78:Lm 1D79-1D9A:Ll 1D9B-1DBF:Lm 1DC0-1DFF:Mn
   1E00-1E94:Lu/Ll 1E95-1E9D:Ll 1E9E-1EFE:Lu/Ll 1EFF-1F07:Ll 1F08-1F0F:Lu 1F10-1F15:Ll 1F18-1F1D:Lu 1F20-1F27:Ll
   1F28-1F2F:Lu 1F30-1F37:Ll 1F38-1F3F:Lu 1F40-1F45:Ll 1F48-1F4D:Lu 1F50-1F57:Ll 1F59:Lu 1F5B:Lu 1F5D:Lu 1F5F:Lu
   1F60-1F67:Ll 1F68-1F6F:Lu 1F70-1F7D:Ll 1F80-1F87:Ll 1F88-1F8F:Lt 1F90-1F97:Ll 1F98-1F9F:Lt 1FA0-1FA7:Ll
   1FA8-1FAF:Lt 1FB0-1FB4:Ll 1FB6-1FB7:Ll 1FB8-1FBB:Lu 1FBC:Lt 1FBD:Sk 1FBE:Ll 1FBF-1FC1:Sk 1FC2-1FC4:Ll
   1FC6-1FC7:Ll 1FC8-1FCB:Lu 1FCC:Lt 1FCD-1FCF:Sk 1FD0-1FD3:Ll 1FD6-1FD7:Ll 1FD8-1FDB:Lu 1FDD-1FDF:Sk 1FE0-1FE7:Ll
   1FE8-1FEC:Lu 1FED-1FEF:Sk 1FF2-1FF4:Ll 1FF6-1FF7:Ll 1FF8-1FFB:Lu 1FFC:Lt 1FFD-1FFE:Sk 2000-200A:Zs 200B-200F:Cf
   2010-2015:Pd 2016-2017:Po 2018:Pi 2019:Pf 201A:Ps 201B-201C:Pi 201D:Pf 201E:Ps 201F:Pi 2020-2027:Po 2028:Zl
   2029:Zp 202A-202E:Cf 202F:Zs 2030-2038:Po 2039:Pi 203A:Pf 203B-203E:Po 203F-2040:Pc 2041-2043:Po 2044:Sm 2045:Ps
   2046:Pe 2047-2051:Po 2052:Sm 2053:Po 2054:Pc 2055-205E:Po 205F:Zs 2060-2064:Cf 2066-206F:Cf 2070:No 2071:Lm
   2074-2079:No 207A-207C:Sm 207D:Ps 207E:Pe 207F:Lm 2080-2089:No 208A-208C:Sm 208D:Ps 208E:Pe 2090-209C:Lm
   20A0-20C0:Sc 20D0-20DC:Mn 20DD-20E0:Me 20E1:Mn 20E2-20E4:Me 20E5-20F0:Mn 2100-2101:So 2102:Lu 2103-2106:So
   2107:Lu 2108-2109:So 210A:Ll 210B-210D:Lu 210E-210F:Ll 2110-2112:Lu 2113:Ll 2114:So 2115:Lu 2116-2117:So 2118:Sm
   2119-211D:Lu 211E-2123:So 2124:Lu 2125:So 2126:Lu 2127:So 2128:Lu 2129:So 212A-212D:Lu 212E:So 212F:Ll
   2130-2133:Lu 2134:Ll 2135-2138:Lo 2139:Ll 213A-213B:So 213C-213D:Ll 213E-213F:Lu 2140-2144:Sm 2145:Lu
   2146-2149:Ll 214A:So 214B:Sm 214C-214D:So 214E:Ll 214F:So 2150-215F:No 2160-2182:Nl 2183:Lu 2184:Ll 2185-2188:Nl
   2189:No 218A-218B:So 2190-2194:Sm 2195-2199:So 219A-219B:Sm 219C-219F:So 21A0:Sm 21A1-21A2:So 21A3:Sm
   21A4-21A5:So 21A6:Sm 21A7-21AD:So 21AE:Sm 21AF-21CD:So 21CE-21CF:Sm 21D0-21D1:So 21D2:Sm 21D3:So 21D4:Sm
   21D5-21F3:So 21F4-22FF:Sm 2300-2307:So 2308:Ps 2309:Pe 230A:Ps 230B:Pe 230C-231F:So 2320-2321:Sm 2322-2328:So
   2329:Ps 232A:Pe 232B-237B:So 237C:Sm 237D-239A:So 239B-23B3:Sm 23B4-23DB:So 23DC-23E1:Sm 23E2-2429:So
   2440-244A:So 2460-249B:No 249C-24E9:So 24EA-24FF:No 2500-25B6:So 25B7:Sm 25B8-25C0:So 25C1:Sm 25C2-25F7:So
   25F8-25FF:Sm 2600-266E:So 266F:Sm 2670-2767:So 2768:Ps 2769:Pe 276A:Ps 276B:Pe 276C:Ps 276D:Pe 276E:Ps 276F:Pe
   2770:Ps 2771:Pe 2772:Ps 2773:Pe 2774:Ps 2775:Pe 2776-2793:No 2794-27BF:So 27C0-27C4:Sm 27C5:Ps 27C6:Pe
   27C7-27E5:Sm 27E6:Ps 27E7:Pe 27E8:Ps 27E9:Pe 27EA:Ps 27EB:Pe 27EC:Ps 27ED:Pe 27EE:Ps 27EF:Pe 27F0-27FF:Sm
   2800-28FF:So 2900-2982:Sm 2983:Ps 2984:Pe 2985:Ps 2986:Pe 2987:Ps 2988:Pe 2989:Ps 298A:Pe 298B:Ps 298C:Pe
   298D:Ps 298E:Pe 298F:Ps 2990:Pe 2991:Ps 2992:Pe 2993:Ps 2994:Pe 2995:Ps 2996:Pe 2997:Ps 2998:Pe 2999-29D7:Sm
   29D8:Ps 29D9:Pe 29DA:Ps 29DB:Pe 29DC-29FB:Sm 29FC:Ps 29FD:Pe 29FE-2AFF:Sm 2B00-2B2F:So 2B30-2B44:Sm 2B45-2B46:So
   2B47-2B4C:Sm 2B4D-2B73:So 2B76-2B95:So 2B97-2BFF:So 2C00-2C2F:Lu 2C30-2C5F:Ll 2C60:Lu 2C61:Ll 2C62-2C64:Lu
   2C65-2C66:Ll 2C67-2C6C:Lu/Ll 2C6D-2C70:Lu 2C71:Ll 2C72:Lu 2C73-2C74:Ll 2C75:Lu 2C76-2C7B:Ll 2C7C-2C7D:Lm
   2C7E-2C80:Lu 2C81-2CE2:Ll/Lu 2CE3-2CE4:Ll 2CE5-2CEA:So 2CEB-2CEE:Lu/Ll 2CEF-2CF1:Mn 2CF2:Lu 2CF3:Ll 2CF9-2CFC:Po
   2CFD:No 2CFE-2CFF:Po 2D00-2D25:Ll 2D27:Ll 2D2D:Ll 2D30-2D67:Lo 2D6F:Lm 2D70:Po 2D7F:Mn 2D80-2D96:Lo 2DA0-2DA6:Lo
   2DA8-2DAE:Lo 2DB0-2DB6:Lo 2DB8-2DBE:Lo 2DC0-2DC6:Lo 2DC8-2DCE:Lo 2DD0-2DD6:Lo 2DD8-2DDE:Lo 2DE0-2DFF:Mn
   2E00-2E01:Po 2E02:Pi 2E03:Pf 2E04:Pi 2E05:Pf 2E06-2E08:Po 2E09:Pi 2E0A:Pf 2E0B:Po 2E0C:Pi 2E0D:Pf 2E0E-2E16:Po
   2E17:Pd 2E18-2E19:Po 2E1A:Pd 2E1B:Po 2E1C:Pi 2E1D:Pf 2E1E-2E1F:Po 2E20:Pi 2E21:Pf 2E22:Ps 2E23:Pe 2E24:Ps
   2E25:Pe 2E26:Ps 2E27:Pe 2E28:Ps 2E29:Pe 2E2A-2E2E:Po 2E2F:Lm 2E30-2E39:Po 2E3A-2E3B:Pd 2E3C-2E3F:Po 2E40:Pd
   2E41:Po 2E42:Ps 2E43-2E4F:Po 2E50-2E51:So 2E52-2E54:Po 2E55:Ps 2E56:Pe 2E57:Ps 2E58:Pe 2E59:Ps 2E5A:Pe 2E5B:Ps
   2E5C:Pe 2E5D:Pd 2E80-2E99:So 2E9B-2EF3:So 2F00-2FD5:So 2FF0-2FFF:So 3000:Zs 3001-3003:Po 3004:So 3005:Lm 3006:Lo
   3007:Nl 3008:Ps 3009:Pe 300A:Ps 300B:Pe 300C:Ps 300D:Pe 300E:Ps 300F:Pe 3010:Ps 3011:Pe 3012-3013:So 3014:Ps
   3015:Pe 3016:Ps 3017:Pe 3018:Ps 3019:Pe 301A:Ps 301B:Pe 301C:Pd 301D:Ps 301E-301F:Pe 3020:So 3021-3029:Nl
   302A-302D:Mn 302E-302F:Mc 3030:Pd 3031-3035:Lm 3036-3037:So 3038-303A:Nl 303B:Lm 303C:Lo 303D:Po 303E-303F:So
   3041-3096:Lo 3099-309A:Mn 309B-309C:Sk 309D-309E:Lm 309F:Lo 30A0:Pd 30A1-30FA:Lo 30FB:Po 30FC-30FE:Lm 30FF:Lo
   3105-312F:Lo 3131-318E:Lo 3190-3191:So 3192-3195:No 3196-319F:So 31A0-31BF:Lo 31C0-31E5:So 31EF:So 31F0-31FF:Lo
   3200-321E:So 3220-3229:No 322A-3247:So 3248-324F:No 3250:So 3251-325F:No 3260-327F:So 3280-3289:No 328A-32B0:So
   32B1-32BF:No 32C0-33FF:So 3400-4DBF:Lo 4DC0-4DFF:So 4E00-A014:Lo A015:Lm A016-A48C:Lo A490-A4C6:So A4D0-A4F7:Lo
   A4F8-A4FD:Lm A4FE-A4FF:Po A500-A60B:Lo A60C:Lm A60D-A60F:Po A610-A61F:Lo A620-A629:Nd A62A-A62B:Lo
   A640-A66D:Lu/Ll A66E:Lo A66F:Mn A670-A672:Me A673:Po A674-A67D:Mn A67E:Po A67F:Lm A680-A69B:Lu/Ll A69C-A69D:Lm
   A69E-A69F:Mn A6A0-A6E5:Lo A6E6-A6EF:Nl A6F0-A6F1:Mn A6F2-A6F7:Po A700-A716:Sk A717-A71F:Lm A720-A721:Sk
   A722-A72E:Lu/Ll A72F-A731:Ll A732-A76F:Lu/Ll A770:Lm A771-A778:Ll A779-A77C:Lu/Ll A77D-A77E:Lu A77F-A787:Ll/Lu
   A788:Lm A789-A78A:Sk A78B-A78E:Lu/Ll A78F:Lo A790-A792:Lu/Ll A793-A795:Ll A796-A7A9:Lu/Ll A7AA-A7AE:Lu A7AF:Ll
   A7B0-A7B4:Lu A7B5-A7C3:Ll/Lu A7C4-A7C7:Lu A7C8-A7CA:Ll/Lu A7CB-A7CC:Lu A7CD:Ll A7D0:Lu A7D1:Ll A7D3:Ll
   A7D5-A7DC:Ll/Lu A7F2-A7F4:Lm A7F5:Lu A7F6:Ll A7F7:Lo A7F8-A7F9:Lm A7FA:Ll A7FB-A801:Lo A802:Mn A803-A805:Lo
   A806:Mn A807-A80A:Lo A80B:Mn A80C-A822:Lo A823-A824:Mc A825-A826:Mn A827:Mc A828-A82B:So A82C:Mn A830-A835:No
   A836-A837:So A838:Sc A839:So A840-A873:Lo A874-A877:Po A880-A881:Mc A882-A8B3:Lo A8B4-A8C3:Mc A8C4-A8C5:Mn
   A8CE-A8CF:Po A8D0-A8D9:Nd A8E0-A8F1:Mn A8F2-A8F7:Lo A8F8-A8FA:Po A8FB:Lo A8FC:Po A8FD-A8FE:Lo A8FF:Mn
   A900-A909:Nd A90A-A925:Lo A926-A92D:Mn A92E-A92F:Po A930-A946:Lo A947-A951:Mn A952-A953:Mc A95F:Po A960-A97C:Lo
   A980-A982:Mn A983:Mc A984-A9B2:Lo A9B3:Mn A9B4-A9B5:Mc A9B6-A9B9:Mn A9BA-A9BB:Mc A9BC-A9BD:Mn A9BE-A9C0:Mc
   A9C1-A9CD:Po A9CF:Lm A9D0-A9D9:Nd A9DE-A9DF:Po A9E0-A9E4:Lo A9E5:Mn A9E6:Lm A9E7-A9EF:Lo A9F0-A9F9:Nd
   A9FA-A9FE:Lo AA00-AA28:Lo AA29-AA2E:Mn AA2F-AA30:Mc AA31-AA32:Mn AA33-AA34:Mc AA35-AA36:Mn AA40-AA42:Lo AA43:Mn
   AA44-AA4B:Lo AA4C:Mn AA4D:Mc AA50-AA59:Nd AA5C-AA5F:Po AA60-AA6F:Lo AA70:Lm AA71-AA76:Lo AA77-AA79:So AA7A:Lo
   AA7B:Mc AA7C:Mn AA7D:Mc AA7E-AAAF:Lo AAB0:Mn AAB1:Lo AAB2-AAB4:Mn AAB5-AAB6:Lo AAB7-AAB8:Mn AAB9-AABD:Lo
   AABE-AABF:Mn AAC0:Lo AAC1:Mn AAC2:Lo AADB-AADC:Lo AADD:Lm AADE-AADF:Po AAE0-AAEA:Lo AAEB:Mc AAEC-AAED:Mn
   AAEE-AAEF:Mc AAF0-AAF1:Po AAF2:Lo AAF3-AAF4:Lm AAF5:Mc AAF6:Mn AB01-AB06:Lo AB09-AB0E:Lo AB11-AB16:Lo
   AB20-AB26:Lo AB28-AB2E:Lo AB30-AB5A:Ll AB5B:Sk AB5C-AB5F:Lm AB60-AB68:Ll AB69:Lm AB6A-AB6B:Sk AB70-ABBF:Ll
   ABC0-ABE2:Lo ABE3-ABE4:Mc ABE5:Mn ABE6-ABE7:Mc ABE8:Mn ABE9-ABEA:Mc ABEB:Po ABEC:Mc ABED:Mn ABF0-ABF9:Nd
   AC00-D7A3:Lo D7B0-D7C6:Lo D7CB-D7FB:Lo D800-DFFF:Cs E000-F8FF:Co F900-FA6D:Lo FA70-FAD9:Lo FB00-FB06:Ll
   FB13-FB17:Ll FB1D:Lo FB1E:Mn FB1F-FB28:Lo FB29:Sm FB2A-FB36:Lo FB38-FB3C:Lo FB3E:Lo FB40-FB41:Lo FB43-FB44:Lo
   FB46-FBB1:Lo FBB2-FBC2:Sk FBD3-FD3D:Lo FD3E:Pe FD3F:Ps FD40-FD4F:So FD50-FD8F:Lo FD92-FDC7:Lo FDCF:So
   FDF0-FDFB:Lo FDFC:Sc FDFD-FDFF:So FE00-FE0F:Mn FE10-FE16:Po FE17:Ps FE18:Pe FE19:Po FE20-FE2F:Mn FE30:Po
   FE31-FE32:Pd FE33-FE34:Pc FE35:Ps FE36:Pe FE37:Ps FE38:Pe FE39:Ps FE3A:Pe FE3B:Ps FE3C:Pe FE3D:Ps FE3E:Pe
   FE3F:Ps FE40:Pe FE41:Ps FE42:Pe FE43:Ps FE44:Pe FE45-FE46:Po FE47:Ps FE48:Pe FE49-FE4C:Po FE4D-FE4F:Pc
   FE50-FE52:Po FE54-FE57:Po FE58:Pd FE59:Ps FE5A:Pe FE5B:Ps FE5C:Pe FE5D:Ps FE5E:Pe FE5F-FE61:Po FE62:Sm FE63:Pd
   FE64-FE66:Sm FE68:Po FE69:Sc FE6A-FE6B:Po FE70-FE74:Lo FE76-FEFC:Lo FEFF:Cf FF01-FF03:Po FF04:Sc FF05-FF07:Po
   FF08:Ps FF09:Pe FF0A:Po FF0B:Sm FF0C:Po FF0D:Pd FF0E-FF0F:Po FF10-FF19:Nd FF1A-FF1B:Po FF1C-FF1E:Sm FF1F-FF20:Po
   FF21-FF3A:Lu FF3B:Ps FF3C:Po FF3D:Pe FF3E:Sk FF3F:Pc FF40:Sk FF41-FF5A:Ll FF5B:Ps FF5C:Sm FF5D:Pe FF5E:Sm
   FF5F:Ps FF60:Pe FF61:Po FF62:Ps FF63:Pe FF64-FF65:Po FF66-FF6F:Lo FF70:Lm FF71-FF9D:Lo FF9E-FF9F:Lm FFA0-FFBE:Lo
   FFC2-FFC7:Lo FFCA-FFCF:Lo FFD2-FFD7:Lo FFDA-FFDC:Lo FFE0-FFE1:Sc FFE2:Sm FFE3:Sk FFE4:So FFE5-FFE6:Sc FFE8:So
   FFE9-FFEC:Sm FFED-FFEE:So FFF9-FFFB:Cf FFFC-FFFD:So 10000-1000B:Lo 1000D-10026:Lo 10028-1003A:Lo 1003C-1003D:Lo
   1003F-1004D:Lo 10050-1005D:Lo 10080-100FA:Lo 10100-10102:Po 10107-10133:No 10137-1013F:So 10140-10174:Nl
   10175-10178:No 10179-10189:So 1018A-1018B:No 1018C-1018E:So 10190-1019C:So 101A0:So 101D0-101FC:So 101FD:Mn
   10280-1029C:Lo 102A0-102D0:Lo 102E0:Mn 102E1-102FB:No 10300-1031F:Lo 10320-10323:No 1032D-10340:Lo 10341:Nl
   10342-10349:Lo 1034A:Nl 10350-10375:Lo 10376-1037A:Mn 10380-1039D:Lo 1039F:Po 103A0-103C3:Lo 103C8-103CF:Lo
   103D0:Po 103D1-103D5:Nl 10400-10427:Lu 10428-1044F:Ll 10450-1049D:Lo 104A0-104A9:Nd 104B0-104D3:Lu
   104D8-104FB:Ll 10500-10527:Lo 10530-10563:Lo 1056F:Po 10570-1057A:Lu 1057C-1058A:Lu 1058C-10592:Lu
   10594-10595:Lu 10597-105A1:Ll 105A3-105B1:Ll 105B3-105B9:Ll 105BB-105BC:Ll 105C0-105F3:Lo 10600-10736:Lo
   10740-10755:Lo 10760-10767:Lo 10780-10785:Lm 10787-107B0:Lm 107B2-107BA:Lm 10800-10805:Lo 10808:Lo
   1080A-10835:Lo 10837-10838:Lo 1083C:Lo 1083F-10855:Lo 10857:Po 10858-1085F:No 10860-10876:Lo 10877-10878:So
   10879-1087F:No 10880-1089E:Lo 108A7-108AF:No 108E0-108F2:Lo 108F4-108F5:Lo 108FB-108FF:No 10900-10915:Lo
   10916-1091B:No 1091F:Po 10920-10939:Lo 1093F:Po 10980-109B7:Lo 109BC-109BD:No 109BE-109BF:Lo 109C0-109CF:No
   109D2-109FF:No 10A00:Lo 10A01-10A03:Mn 10A05-10A06:Mn 10A0C-10A0F:Mn 10A10-10A13:Lo 10A15-10A17:Lo
   10A19-10A35:Lo 10A38-10A3A:Mn 10A3F:Mn 10A40-10A48:No 10A50-10A58:Po 10A60-10A7C:Lo 10A7D-10A7E:No 10A7F:Po
   10A80-10A9C:Lo 10A9D-10A9F:No 10AC0-10AC7:Lo 10AC8:So 10AC9-10AE4:Lo 10AE5-10AE6:Mn 10AEB-10AEF:No
   10AF0-10AF6:Po 10B00-10B35:Lo 10B39-10B3F:Po 10B40-10B55:Lo 10B58-10B5F:No 10B60-10B72:Lo 10B78-10B7F:No
   10B80-10B91:Lo 10B99-10B9C:Po 10BA9-10BAF:No 10C00-10C48:Lo 10C80-10CB2:Lu 10CC0-10CF2:Ll 10CFA-10CFF:No
   10D00-10D23:Lo 10D24-10D27:Mn 10D30-10D39:Nd 10D40-10D49:Nd 10D4A-10D4D:Lo 10D4E:Lm 10D4F:Lo 10D50-10D65:Lu
   10D69-10D6D:Mn 10D6E:Pd 10D6F:Lm 10D70-10D85:Ll 10D8E-10D8F:Sm 10E60-10E7E:No 10E80-10EA9:Lo 10EAB-10EAC:Mn
   10EAD:Pd 10EB0-10EB1:Lo 10EC2-10EC4:Lo 10EFC-10EFF:Mn 10F00-10F1C:Lo 10F1D-10F26:No 10F27:Lo 10F30-10F45:Lo
   10F46-10F50:Mn 10F51-10F54:No 10F55-10F59:Po 10F70-10F81:Lo 10F82-10F85:Mn 10F86-10F89:Po 10FB0-10FC4:Lo
   10FC5-10FCB:No 10FE0-10FF6:Lo 11000:Mc 11001:Mn 11002:Mc 11003-11037:Lo 11038-11046:Mn 11047-1104D:Po
   11052-11065:No 11066-1106F:Nd 11070:Mn 11071-11072:Lo 11073-11074:Mn 11075:Lo 1107F-11081:Mn 11082:Mc
   11083-110AF:Lo 110B0-110B2:Mc 110B3-110B6:Mn 110B7-110B8:Mc 110B9-110BA:Mn 110BB-110BC:Po 110BD:Cf
   110BE-110C1:Po 110C2:Mn 110CD:Cf 110D0-110E8:Lo 110F0-110F9:Nd 11100-11102:Mn 11103-11126:Lo 11127-1112B:Mn
   1112C:Mc 1112D-11134:Mn 11136-1113F:Nd 11140-11143:Po 11144:Lo 11145-11146:Mc 11147:Lo 11150-11172:Lo 11173:Mn
   11174-11175:Po 11176:Lo 11180-11181:Mn 11182:Mc 11183-111B2:Lo 111B3-111B5:Mc 111B6-111BE:Mn 111BF-111C0:Mc
   111C1-111C4:Lo 111C5-111C8:Po 111C9-111CC:Mn 111CD:Po 111CE:Mc 111CF:Mn 111D0-111D9:Nd 111DA:Lo 111DB:Po
   111DC:Lo 111DD-111DF:Po 111E1-111F4:No 11200-11211:Lo 11213-1122B:Lo 1122C-1122E:Mc 1122F-11231:Mn
   11232-11233:Mc 11234:Mn 11235:Mc 11236-11237:Mn 11238-1123D:Po 1123E:Mn 1123F-11240:Lo 11241:Mn 11280-11286:Lo
   11288:Lo 1128A-1128D:Lo 1128F-1129D:Lo 1129F-112A8:Lo 112A9:Po 112B0-112DE:Lo 112DF:Mn 112E0-112E2:Mc
   112E3-112EA:Mn 112F0-112F9:Nd 11300-11301:Mn 11302-11303:Mc 11305-1130C:Lo 1130F-11310:Lo 11313-11328:Lo
   1132A-11330:Lo 11332-11333:Lo 11335-11339:Lo 1133B-1133C:Mn 1133D:Lo 1133E-1133F:Mc 11340:Mn 11341-11344:Mc
   11347-11348:Mc 1134B-1134D:Mc 11350:Lo 11357:Mc 1135D-11361:Lo 11362-11363:Mc 11366-1136C:Mn 11370-11374:Mn
   11380-11389:Lo 1138B:Lo 1138E:Lo 11390-113B5:Lo 113B7:Lo 113B8-113BA:Mc 113BB-113C0:Mn 113C2:Mc 113C5:Mc
   113C7-113CA:Mc 113CC-113CD:Mc 113CE:Mn 113CF:Mc 113D0:Mn 113D1:Lo 113D2:Mn 113D3:Lo 113D4-113D5:Po
   113D7-113D8:Po 113E1-113E2:Mn 11400-11434:Lo 11435-11437:Mc 11438-1143F:Mn 11440-11441:Mc 11442-11444:Mn
   11445:Mc 11446:Mn 11447-1144A:Lo 1144B-1144F:Po 11450-11459:Nd 1145A-1145B:Po 1145D:Po 1145E:Mn 1145F-11461:Lo
   11480-114AF:Lo 114B0-114B2:Mc 114B3-114B8:Mn 114B9:Mc 114BA:Mn 114BB-114BE:Mc 114BF-114C0:Mn 114C1:Mc
   114C2-114C3:Mn 114C4-114C5:Lo 114C6:Po 114C7:Lo 114D0-114D9:Nd 11580-115AE:Lo 115AF-115B1:Mc 115B2-115B5:Mn
   115B8-115BB:Mc 115BC-115BD:Mn 115BE:Mc 115BF-115C0:Mn 115C1-115D7:Po 115D8-115DB:Lo 115DC-115DD:Mn
   11600-1162F:Lo 11630-11632:Mc 11633-1163A:Mn 1163B-1163C:Mc 1163D:Mn 1163E:Mc 1163F-11640:Mn 11641-11643:Po
   11644:Lo 11650-11659:Nd 11660-1166C:Po 11680-116AA:Lo 116AB:Mn 116AC:Mc 116AD:Mn 116AE-116AF:Mc 116B0-116B5:Mn
   116B6:Mc 116B7:Mn 116B8:Lo 116B9:Po 116C0-116C9:Nd 116D0-116E3:Nd 11700-1171A:Lo 1171D-1171F:Mn 11720-11721:Mc
   11722-11725:Mn 11726:Mc 11727-1172B:Mn 11730-11739:Nd 1173A-1173B:No 1173C-1173E:Po 1173F:So 11740-11746:Lo
   11800-1182B:Lo 1182C-1182E:Mc 1182F-11837:Mn 11838:Mc 11839-1183A:Mn 1183B:Po 118A0-118BF:Lu 118C0-118DF:Ll
   118E0-118E9:Nd 118EA-118F2:No 118FF-11906:Lo 11909:Lo 1190C-11913:Lo 11915-11916:Lo 11918-1192F:Lo
   11930-11935:Mc 11937-11938:Mc 1193B-1193C:Mn 1193D:Mc 1193E:Mn 1193F:Lo 11940:Mc 11941:Lo 11942:Mc 11943:Mn
   11944-11946:Po 11950-11959:Nd 119A0-119A7:Lo 119AA-119D0:Lo 119D1-119D3:Mc 119D4-119D7:Mn 119DA-119DB:Mn
   119DC-119DF:Mc 119E0:Mn 119E1:Lo 119E2:Po 119E3:Lo 119E4:Mc 11A00:Lo 11A01-11A0A:Mn 11A0B-11A32:Lo
   11A33-11A38:Mn 11A39:Mc 11A3A:Lo 11A3B-11A3E:Mn 11A3F-11A46:Po 11A47:Mn 11A50:Lo 11A51-11A56:Mn 11A57-11A58:Mc
   11A59-11A5B:Mn 11A5C-11A89:Lo 11A8A-11A96:Mn 11A97:Mc 11A98-11A99:Mn 11A9A-11A9C:Po 11A9D:Lo 11A9E-11AA2:Po
   11AB0-11AF8:Lo 11B00-11B09:Po 11BC0-11BE0:Lo 11BE1:Po 11BF0-11BF9:Nd 11C00-11C08:Lo 11C0A-11C2E:Lo 11C2F:Mc
   11C30-11C36:Mn 11C38-11C3D:Mn 11C3E:Mc 11C3F:Mn 11C40:Lo 11C41-11C45:Po 11C50-11C59:Nd 11C5A-11C6C:No
   11C70-11C71:Po 11C72-11C8F:Lo 11C92-11CA7:Mn 11CA9:Mc 11CAA-11CB0:Mn 11CB1:Mc 11CB2-11CB3:Mn 11CB4:Mc
   11CB5-11CB6:Mn 11D00-11D06:Lo 11D08-11D09:Lo 11D0B-11D30:Lo 11D31-11D36:Mn 11D3A:Mn 11D3C-11D3D:Mn
   11D3F-11D45:Mn 11D46:Lo 11D47:Mn 11D50-11D59:Nd 11D60-11D65:Lo 11D67-11D68:Lo 11D6A-11D89:Lo 11D8A-11D8E:Mc
   11D90-11D91:Mn 11D93-11D94:Mc 11D95:Mn 11D96:Mc 11D97:Mn 11D98:Lo 11DA0-11DA9:Nd 11EE0-11EF2:Lo 11EF3-11EF4:Mn
   11EF5-11EF6:Mc 11EF7-11EF8:Po 11F00-11F01:Mn 11F02:Lo 11F03:Mc 11F04-11F10:Lo 11F12-11F33:Lo 11F34-11F35:Mc
   11F36-11F3A:Mn 11F3E-11F3F:Mc 11F40:Mn 11F41:Mc 11F42:Mn 11F43-11F4F:Po 11F50-11F59:Nd 11F5A:Mn 11FB0:Lo
   11FC0-11FD4:No 11FD5-11FDC:So 11FDD-11FE0:Sc 11FE1-11FF1:So 11FFF:Po 12000-12399:Lo 12400-1246E:Nl
   12470-12474:Po 12480-12543:Lo 12F90-12FF0:Lo 12FF1-12FF2:Po 13000-1342F:Lo 13430-1343F:Cf 13440:Mn
   13441-13446:Lo 13447-13455:Mn 13460-143FA:Lo 14400-14646:Lo 16100-1611D:Lo 1611E-16129:Mn 1612A-1612C:Mc
   1612D-1612F:Mn 16130-16139:Nd 16800-16A38:Lo 16A40-16A5E:Lo 16A60-16A69:Nd 16A6E-16A6F:Po 16A70-16ABE:Lo
   16AC0-16AC9:Nd 16AD0-16AED:Lo 16AF0-16AF4:Mn 16AF5:Po 16B00-16B2F:Lo 16B30-16B36:Mn 16B37-16B3B:Po
   16B3C-16B3F:So 16B40-16B43:Lm 16B44:Po 16B45:So 16B50-16B59:Nd 16B5B-16B61:No 16B63-16B77:Lo 16B7D-16B8F:Lo
   16D40-16D42:Lm 16D43-16D6A:Lo 16D6B-16D6C:Lm 16D6D-16D6F:Po 16D70-16D79:Nd 16E40-16E5F:Lu 16E60-16E7F:Ll
   16E80-16E96:No 16E97-16E9A:Po 16F00-16F4A:Lo 16F4F:Mn 16F50:Lo 16F51-16F87:Mc 16F8F-16F92:Mn 16F93-16F9F:Lm
   16FE0-16FE1:Lm 16FE2:Po 16FE3:Lm 16FE4:Mn 16FF0-16FF1:Mc 17000-187F7:Lo 18800-18CD5:Lo 18CFF-18D08:Lo
   1AFF0-1AFF3:Lm 1AFF5-1AFFB:Lm 1AFFD-1AFFE:Lm 1B000-1B122:Lo 1B132:Lo 1B150-1B152:Lo 1B155:Lo 1B164-1B167:Lo
   1B170-1B2FB:Lo 1BC00-1BC6A:Lo 1BC70-1BC7C:Lo 1BC80-1BC88:Lo 1BC90-1BC99:Lo 1BC9C:So 1BC9D-1BC9E:Mn 1BC9F:Po
   1BCA0-1BCA3:Cf 1CC00-1CCEF:So 1CCF0-1CCF9:Nd 1CD00-1CEB3:So 1CF00-1CF2D:Mn 1CF30-1CF46:Mn 1CF50-1CFC3:So
   1D000-1D0F5:So 1D100-1D126:So 1D129-1D164:So 1D165-1D166:Mc 1D167-1D169:Mn 1D16A-1D16C:So 1D16D-1D172:Mc
   1D173-1D17A:Cf 1D17B-1D182:Mn 1D183-1D184:So 1D185-1D18B:Mn 1D18C-1D1A9:So 1D1AA-1D1AD:Mn 1D1AE-1D1EA:So
   1D200-1D241:So 1D242-1D244:Mn 1D245:So 1D2C0-1D2D3:No 1D2E0-1D2F3:No 1D300-1D356:So 1D360-1D378:No
   1D400-1D419:Lu 1D41A-1D433:Ll 1D434-1D44D:Lu 1D44E-1D454:Ll 1D456-1D467:Ll 1D468-1D481:Lu 1D482-1D49B:Ll
   1D49C:Lu 1D49E-1D49F:Lu 1D4A2:Lu 1D4A5-1D4A6:Lu 1D4A9-1D4AC:Lu 1D4AE-1D4B5:Lu 1D4B6-1D4B9:Ll 1D4BB:Ll
   1D4BD-1D4C3:Ll 1D4C5-1D4CF:Ll 1D4D0-1D4E9:Lu 1D4EA-1D503:Ll 1D504-1D505:Lu 1D507-1D50A:Lu 1D50D-1D514:Lu
   1D516-1D51C:Lu 1D51E-1D537:Ll 1D538-1D539:Lu 1D53B-1D53E:Lu 1D540-1D544:Lu 1D546:Lu 1D54A-1D550:Lu
   1D552-1D56B:Ll 1D56C-1D585:Lu 1D586-1D59F:Ll 1D5A0-1D5B9:Lu 1D5BA-1D5D3:Ll 1D5D4-1D5ED:Lu 1D5EE-1D607:Ll
   1D608-1D621:Lu 1D622-1D63B:Ll 1D63C-1D655:Lu 1D656-1D66F:Ll 1D670-1D689:Lu 1D68A-1D6A5:Ll 1D6A8-1D6C0:Lu
   1D6C1:Sm 1D6C2-1D6DA:Ll 1D6DB:Sm 1D6DC-1D6E1:Ll 1D6E2-1D6FA:Lu 1D6FB:Sm 1D6FC-1D714:Ll 1D715:Sm 1D716-1D71B:Ll
   1D71C-1D734:Lu 1D735:Sm 1D736-1D74E:Ll 1D74F:Sm 1D750-1D755:Ll 1D756-1D76E:Lu 1D76F:Sm 1D770-1D788:Ll 1D789:Sm
   1D78A-1D78F:Ll 1D790-1D7A8:Lu 1D7A9:Sm 1D7AA-1D7C2:Ll 1D7C3:Sm 1D7C4-1D7C9:Ll 1D7CA:Lu 1D7CB:Ll 1D7CE-1D7FF:Nd
   1D800-1D9FF:So 1DA00-1DA36:Mn 1DA37-1DA3A:So 1DA3B-1DA6C:Mn 1DA6D-1DA74:So 1DA75:Mn 1DA76-1DA83:So 1DA84:Mn
   1DA85-1DA86:So 1DA87-1DA8B:Po 1DA9B-1DA9F:Mn 1DAA1-1DAAF:Mn 1DF00-1DF09:Ll 1DF0A:Lo 1DF0B-1DF1E:Ll
   1DF25-1DF2A:Ll 1E000-1E006:Mn 1E008-1E018:Mn 1E01B-1E021:Mn 1E023-1E024:Mn 1E026-1E02A:Mn 1E030-1E06D:Lm
   1E08F:Mn 1E100-1E12C:Lo 1E130-1E136:Mn 1E137-1E13D:Lm 1E140-1E149:Nd 1E14E:Lo 1E14F:So 1E290-1E2AD:Lo 1E2AE:Mn
   1E2C0-1E2EB:Lo 1E2EC-1E2EF:Mn 1E2F0-1E2F9:Nd 1E2FF:Sc 1E4D0-1E4EA:Lo 1E4EB:Lm 1E4EC-1E4EF:Mn 1E4F0-1E4F9:Nd
   1E5D0-1E5ED:Lo 1E5EE-1E5EF:Mn 1E5F0:Lo 1E5F1-1E5FA:Nd 1E5FF:Po 1E7E0-1E7E6:Lo 1E7E8-1E7EB:Lo 1E7ED-1E7EE:Lo
   1E7F0-1E7FE:Lo 1E800-1E8C4:Lo 1E8C7-1E8CF:No 1E8D0-1E8D6:Mn 1E900-1E921:Lu 1E922-1E943:Ll 1E944-1E94A:Mn
   1E94B:Lm 1E950-1E959:Nd 1E95E-1E95F:Po 1EC71-1ECAB:No 1ECAC:So 1ECAD-1ECAF:No 1ECB0:Sc 1ECB1-1ECB4:No
   1ED01-1ED2D:No 1ED2E:So 1ED2F-1ED3D:No 1EE00-1EE03:Lo 1EE05-1EE1F:Lo 1EE21-1EE22:Lo 1EE24:Lo 1EE27:Lo
   1EE29-1EE32:Lo 1EE34-1EE37:Lo 1EE39:Lo 1EE3B:Lo 1EE42:Lo 1EE47:Lo 1EE49:Lo 1EE4B:Lo 1EE4D-1EE4F:Lo
   1EE51-1EE52:Lo 1EE54:Lo 1EE57:Lo 1EE59:Lo 1EE5B:Lo 1EE5D:Lo 1EE5F:Lo 1EE61-1EE62:Lo 1EE64:Lo 1EE67-1EE6A:Lo
   1EE6C-1EE72:Lo 1EE74-1EE77:Lo 1EE79-1EE7C:Lo 1EE7E:Lo 1EE80-1EE89:Lo 1EE8B-1EE9B:Lo 1EEA1-1EEA3:Lo
   1EEA5-1EEA9:Lo 1EEAB-1EEBB:Lo 1EEF0-1EEF1:Sm 1F000-1F02B:So 1F030-1F093:So 1F0A0-1F0AE:So 1F0B1-1F0BF:So
   1F0C1-1F0CF:So 1F0D1-1F0F5:So 1F100-1F10C:No 1F10D-1F1AD:So 1F1E6-1F202:So 1F210-1F23B:So 1F240-1F248:So
   1F250-1F251:So 1F260-1F265:So 1F300-1F3FA:So 1F3FB-1F3FF:Sk 1F400-1F6D7:So 1F6DC-1F6EC:So 1F6F0-1F6FC:So
   1F700-1F776:So 1F77B-1F7D9:So 1F7E0-1F7EB:So 1F7F0:So 1F800-1F80B:So 1F810-1F847:So 1F850-1F859:So
   1F860-1F887:So 1F890-1F8AD:So 1F8B0-1F8BB:So 1F8C0-1F8C1:So 1F900-1FA53:So 1FA60-1FA6D:So 1FA70-1FA7C:So
   1FA80-1FA89:So 1FA8F-1FAC6:So 1FACE-1FADC:So 1FADF-1FAE9:So 1FAF0-1FAF8:So 1FB00-1FB92:So 1FB94-1FBEF:So
   1FBF0-1FBF9:Nd 20000-2A6DF:Lo 2A700-2B739:Lo 2B740-2B81D:Lo 2B820-2CEA1:Lo 2CEB0-2EBE0:Lo 2EBF0-2EE5D:Lo
   2F800-2FA1D:Lo 30000-3134A:Lo 31350-323AF:Lo E0001:Cf E0020-E007F:Cf E0100-E01EF:Mn F0000-FFFFD:Co
   100000-10FFFD:Co"

/-- **The category of a code point.** -/
def categoryOf (n : Nat) : Category :=
  match find? categoryTable n with
  | none => ⟨'C', 'n'⟩
  | some r =>
    match r.label with
    | [g, k] => ⟨g, k⟩
    | [g, k, '/', g', k'] => if (n - r.first) % 2 = 0 then ⟨g, k⟩ else ⟨g', k'⟩
    | _ => ⟨'C', 'n'⟩

def category (c : Char) : Category := categoryOf c.toNat

/-- Alphabetic characters that are neither letters nor letter numbers. -/
def otherAlphabetic : Array Run := table
  "345 5B0-5BD 5BF 5C1-5C2 5C4-5C5 5C7 610-61A 64B-657 659-65F 670 6D6-6DC 6E1-6E4 6E7-6E8 6ED 711 730-73F 7A6-7B0
   816-817 81B-823 825-827 829-82C 897 8D4-8DF 8E3-8E9 8F0-903 93A-93B 93E-94C 94E-94F 955-957 962-963 981-983
   9BE-9C4 9C7-9C8 9CB-9CC 9D7 9E2-9E3 A01-A03 A3E-A42 A47-A48 A4B-A4C A51 A70-A71 A75 A81-A83 ABE-AC5 AC7-AC9
   ACB-ACC AE2-AE3 AFA-AFC B01-B03 B3E-B44 B47-B48 B4B-B4C B56-B57 B62-B63 B82 BBE-BC2 BC6-BC8 BCA-BCC BD7 C00-C04
   C3E-C44 C46-C48 C4A-C4C C55-C56 C62-C63 C81-C83 CBE-CC4 CC6-CC8 CCA-CCC CD5-CD6 CE2-CE3 CF3 D00-D03 D3E-D44
   D46-D48 D4A-D4C D57 D62-D63 D81-D83 DCF-DD4 DD6 DD8-DDF DF2-DF3 E31 E34-E3A E4D EB1 EB4-EB9 EBB-EBC ECD F71-F83
   F8D-F97 F99-FBC 102B-1036 1038 103B-103E 1056-1059 105E-1060 1062-1064 1067-106D 1071-1074 1082-108D 108F
   109A-109D 1712-1713 1732-1733 1752-1753 1772-1773 17B6-17C8 1885-1886 18A9 1920-192B 1930-1938 1A17-1A1B
   1A55-1A5E 1A61-1A74 1ABF-1AC0 1ACC-1ACE 1B00-1B04 1B35-1B43 1B80-1B82 1BA1-1BA9 1BAC-1BAD 1BE7-1BF1 1C24-1C36
   1DE7-1DF4 24B6-24E9 2DE0-2DFF A674-A67B A69E-A69F A802 A80B A823-A827 A880-A881 A8B4-A8C3 A8C5 A8FF A926-A92A
   A947-A952 A980-A983 A9B4-A9BF A9E5 AA29-AA36 AA43 AA4C-AA4D AA7B-AA7D AAB0 AAB2-AAB4 AAB7-AAB8 AABE AAEB-AAEF
   AAF5 ABE3-ABEA FB1E 10376-1037A 10A01-10A03 10A05-10A06 10A0C-10A0F 10D24-10D27 10D69 10EAB-10EAC 10EFC
   11000-11002 11038-11045 11073-11074 11080-11082 110B0-110B8 110C2 11100-11102 11127-11132 11145-11146
   11180-11182 111B3-111BF 111CE-111CF 1122C-11234 11237 1123E 11241 112DF-112E8 11300-11303 1133E-11344
   11347-11348 1134B-1134C 11357 11362-11363 113B8-113C0 113C2 113C5 113C7-113CA 113CC-113CD 11435-11441
   11443-11445 114B0-114C1 115AF-115B5 115B8-115BE 115DC-115DD 11630-1163E 11640 116AB-116B5 1171D-1172A
   1182C-11838 11930-11935 11937-11938 1193B-1193C 11940 11942 119D1-119D7 119DA-119DF 119E4 11A01-11A0A
   11A35-11A39 11A3B-11A3E 11A51-11A5B 11A8A-11A97 11C2F-11C36 11C38-11C3E 11C92-11CA7 11CA9-11CB6 11D31-11D36
   11D3A 11D3C-11D3D 11D3F-11D41 11D43 11D47 11D8A-11D8E 11D90-11D91 11D93-11D96 11EF3-11EF6 11F00-11F01 11F03
   11F34-11F3A 11F3E-11F40 1611E-1612E 16F4F 16F51-16F87 16F8F-16F92 16FF0-16FF1 1BC9E 1E000-1E006 1E008-1E018
   1E01B-1E021 1E023-1E024 1E026-1E02A 1E08F 1E947 1F130-1F149 1F150-1F169 1F170-1F189"

/-- **Alphabetic characters.** -/
def isAlphabetic (c : Char) : Bool :=
  if c.toNat < 0x80 then c.isAlpha
  else
    let k := category c
    k.group == 'L' || k == ⟨'N', 'l'⟩ || has otherAlphabetic c.toNat

/-- Numbers of every kind: digits, letter numbers and others. -/
def isNumeric (c : Char) : Bool := if c.toNat < 0x80 then c.isDigit else (category c).group == 'N'

def isAlphanumeric (c : Char) : Bool := isAlphabetic c || isNumeric c

/-- Decimal digits of every script. -/
def isDecimalDigit (c : Char) : Bool := if c.toNat < 0x80 then c.isDigit else category c == ⟨'N', 'd'⟩

/-- Characters that may stand in a word: letters, marks, digits, connecting punctuation and the joiners. -/
def isWord (c : Char) : Bool :=
  if c.toNat < 0x80 then c.isAlphanum || c == '_'
  else
    let k := category c
    isAlphabetic c || k.group == 'M' || k == ⟨'N', 'd'⟩ || k == ⟨'P', 'c'⟩ || c == '\u200c' || c == '\u200d'

/-- Characters that extend the one before them without being marks of their own. -/
def otherExtending : Array Run := table
  "9BE 9D7 B3E B57 BBE BD7 CC2 CD5-CD6 D3E D57 DCF DDF 1B35 200C 302E-302F FF9E-FF9F 1133E 11357 114B0 114BD 115AF
   11930 1D165 1D16E-1D172 E0020-E007F"

/-- Characters that extend the one before them. -/
def isExtending (c : Char) : Bool :=
  let k := category c
  k == ⟨'M', 'n'⟩ || k == ⟨'M', 'e'⟩ || has otherExtending c.toNat

/-- Characters with a picture of their own: not separators other than the blank, and of no class `C`. -/
def isPrintable (c : Char) : Bool :=
  c == ' ' || (let k := category c; k.group != 'Z' && k.group != 'C')

/-- Upper-case characters that are not letters of that category. -/
def otherUppercase : Array Run := table
  "2160-216F 24B6-24CF 1F130-1F149 1F150-1F169 1F170-1F189"

/-- Lower-case characters that are not letters of that category. -/
def otherLowercase : Array Run := table
  "AA BA 2B0-2B8 2C0-2C1 2E0-2E4 345 37A 10FC 1D2C-1D6A 1D78 1D9B-1DBF 2071 207F 2090-209C 2170-217F 24D0-24E9
   2C7C-2C7D A69C-A69D A770 A7F2-A7F4 A7F8-A7F9 AB5C-AB5F AB69 10780 10783-10785 10787-107B0 107B2-107BA
   1E030-1E06D"

def isUppercase (c : Char) : Bool := category c == ⟨'L', 'u'⟩ || has otherUppercase c.toNat

def isLowercase (c : Char) : Bool := category c == ⟨'L', 'l'⟩ || has otherLowercase c.toNat

end Unicode
end RowSql
