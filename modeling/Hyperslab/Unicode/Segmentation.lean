import Hyperslab.Unicode.Runs

/-!
What each code point does where texts are cut into characters as readers see them, words and
sentences, in version 16.0 of the character database.
-/

namespace Hyperslab.Unicode

/-- The classes by which texts are cut into characters as readers see them, with their names. -/
def graphemeBreakNames : List (String × List String) := [
  ("CR", ["cr"]), ("CN", ["control", "cn"]), ("EX", ["extend", "ex"]), ("L", ["l"]),
  ("LF", ["lf"]), ("LV", ["lv"]), ("LVT", ["lvt"]), ("PP", ["prepend", "pp"]),
  ("RI", ["regionalindicator", "ri"]), ("SM", ["spacingmark", "sm"]), ("T", ["t"]), ("V", ["v"]),
  ("ZWJ", ["zwj"])]

/-- The class of each run of code points. -/
def graphemeBreakTable : String :=
"CN10 LF1 CN2 CR1 CN18 Other95 CN33 Other13 CN1 Other594 EX112 Other275 EX7 Other263 EX45 Other1
EX1 Other1 EX2 Other1 EX2 Other1 EX1 Other56 PP6 Other10 EX11 Other1 CN1 Other46 EX21 Other16 EX1
Other101 EX7 PP1 Other1 EX6 Other2 EX2 Other1 EX4 Other33 PP1 Other1 EX1 Other30 EX27 Other91 EX11
Other58 EX9 Other9 EX1 Other24 EX4 Other1 EX9 Other1 EX3 Other1 EX5 Other43 EX3 Other52 PP2 Other5
EX9 Other42 EX24 PP1 EX32 SM1 Other54 EX1 SM1 EX1 Other1 SM3 EX8 SM4 EX1 SM2 Other1 EX7 Other10
EX2 Other29 EX1 SM2 Other56 EX1 Other1 EX1 SM2 EX4 Other2 SM2 Other2 SM2 EX1 Other9 EX1 Other10
EX2 Other26 EX1 Other2 EX2 SM1 Other56 EX1 Other1 SM3 EX2 Other4 EX2 Other2 EX3 Other3 EX1 Other30
EX2 Other3 EX1 Other11 EX2 SM1 Other56 EX1 Other1 SM3 EX5 Other1 EX2 SM1 Other1 SM2 EX1 Other20
EX2 Other22 EX6 Other1 EX1 SM2 Other56 EX1 Other1 EX2 SM1 EX4 Other2 SM2 Other2 SM2 EX1 Other7 EX3
Other10 EX2 Other30 EX1 Other59 EX1 SM1 EX1 SM2 Other3 SM3 Other1 SM3 EX1 Other9 EX1 Other40 EX1
SM3 EX1 Other55 EX1 Other1 EX3 SM4 Other1 EX3 Other1 EX4 Other7 EX2 Other11 EX2 Other29 EX1 SM2
Other56 EX1 Other1 SM1 EX2 SM1 EX1 SM2 Other1 EX3 Other1 EX4 Other7 EX2 Other11 EX2 Other15 SM1
Other12 EX2 SM2 Other55 EX2 Other1 EX1 SM2 EX4 Other1 SM3 Other1 SM3 EX1 PP1 Other8 EX1 Other10
EX2 Other29 EX1 SM2 Other70 EX1 Other4 EX1 SM2 EX3 Other1 EX1 Other1 SM7 EX1 Other18 SM2 Other61
EX1 Other1 SM1 EX7 Other12 EX8 Other98 EX1 Other1 SM1 EX9 Other11 EX7 Other73 EX2 Other27 EX1
Other1 EX1 Other1 EX1 Other4 SM2 Other49 EX14 SM1 EX5 Other1 EX2 Other5 EX11 Other1 EX36 Other9
EX1 Other102 EX4 SM1 EX6 Other1 EX2 SM2 EX2 Other23 SM2 EX2 Other4 EX3 Other16 EX4 Other13 EX1
Other1 SM1 EX2 Other6 EX1 Other15 EX1 Other98 L96 V72 T88 Other349 EX3 Other946 EX4 Other28 EX3
Other29 EX2 Other30 EX2 Other64 EX2 SM1 EX7 SM8 EX1 SM2 EX11 Other9 EX1 Other45 EX3 CN1 EX1
Other117 EX2 Other34 EX1 Other118 EX3 SM4 EX2 SM3 Other4 SM2 EX1 SM6 EX3 Other219 EX2 SM2 EX1
Other57 SM1 EX1 SM1 EX7 Other1 EX1 Other1 EX1 Other2 EX8 SM6 EX10 Other2 EX1 Other48 EX31 Other49
EX4 SM1 Other47 EX10 SM4 EX3 Other38 EX9 Other12 EX2 SM1 Other30 SM1 EX4 SM2 EX6 Other56 EX1 SM1
EX2 SM3 EX1 SM1 EX5 Other48 SM8 EX8 SM2 EX2 Other152 EX3 Other1 EX13 SM1 EX7 Other4 EX1 Other6 EX1
Other2 SM1 EX2 Other198 EX64 Other523 CN1 EX1 ZWJ1 CN2 Other24 CN7 Other49 CN16 Other96 EX33
Other3070 EX3 Other141 EX1 Other96 EX32 Other554 EX6 Other105 EX2 Other30164 EX4 Other1 EX10
Other32 EX2 Other80 EX2 Other272 EX1 Other3 EX1 Other4 EX1 Other23 SM2 EX2 SM1 Other4 EX1 Other83
SM2 Other50 SM16 EX2 Other26 EX18 Other13 EX1 Other38 EX8 Other25 EX11 SM1 EX1 Other12 L29 Other3
EX3 SM1 Other47 EX1 SM2 EX4 SM2 EX2 SM2 EX1 Other36 EX1 Other67 EX6 SM2 EX2 SM2 EX2 Other12 EX1
Other8 EX1 SM1 Other46 EX1 Other51 EX1 Other1 EX3 Other2 EX2 Other5 EX2 Other1 EX1 Other41 SM1 EX2
SM2 Other5 SM1 EX1 Other236 SM2 EX1 SM2 EX1 SM2 Other1 SM1 EX1 Other18 LV1 LVT27 LV1 LVT27 LV1
LVT27 LV1 LVT27 LV1 LVT27 LV1 LVT27 LV1 LVT27 LV1 LVT27 LV1 LVT27 LV1 LVT27 LV1 LVT27 LV1 LVT27
LV1 LVT27 LV1 LVT27 LV1 LVT27 LV1 LVT27 LV1 LVT27 LV1 LVT27 LV1 LVT27 LV1 LVT27 LV1 LVT27 LV1
LVT27 LV1 LVT27 LV1 LVT27 LV1 LVT27 LV1 LVT27 LV1 LVT27 LV1 LVT27 LV1 LVT27 LV1 LVT27 LV1 LVT27
LV1 LVT27 LV1 LVT27 LV1 LVT27 LV1 LVT27 LV1 LVT27 LV1 LVT27 LV1 LVT27 LV1 LVT27 LV1 LVT27 LV1
LVT27 LV1 LVT27 LV1 LVT27 LV1 LVT27 LV1 LVT27 LV1 LVT27 LV1 LVT27 LV1 LVT27 LV1 LVT27 LV1 LVT27
LV1 LVT27 LV1 LVT27 LV1 LVT27 LV1 LVT27 LV1 LVT27 LV1 LVT27 LV1 LVT27 LV1 LVT27 LV1 LVT27 LV1
LVT27 LV1 LVT27 LV1 LVT27 LV1 LVT27 LV1 LVT27 LV1 LVT27 LV1 LVT27 LV1 LVT27 LV1 LVT27 LV1 LVT27
LV1 LVT27 LV1 LVT27 LV1 LVT27 LV1 LVT27 LV1 LVT27 LV1 LVT27 LV1 LVT27 LV1 LVT27 LV1 LVT27 LV1
LVT27 LV1 LVT27 LV1 LVT27 LV1 LVT27 LV1 LVT27 LV1 LVT27 LV1 LVT27 LV1 LVT27 LV1 LVT27 LV1 LVT27
LV1 LVT27 LV1 LVT27 LV1 LVT27 LV1 LVT27 LV1 LVT27 LV1 LVT27 LV1 LVT27 LV1 LVT27 LV1 LVT27 LV1
LVT27 LV1 LVT27 LV1 LVT27 LV1 LVT27 LV1 LVT27 LV1 LVT27 LV1 LVT27 LV1 LVT27 LV1 LVT27 LV1 LVT27
LV1 LVT27 LV1 LVT27 LV1 LVT27 LV1 LVT27 LV1 LVT27 LV1 LVT27 LV1 LVT27 LV1 LVT27 LV1 LVT27 LV1
LVT27 LV1 LVT27 LV1 LVT27 LV1 LVT27 LV1 LVT27 LV1 LVT27 LV1 LVT27 LV1 LVT27 LV1 LVT27 LV1 LVT27
LV1 LVT27 LV1 LVT27 LV1 LVT27 LV1 LVT27 LV1 LVT27 LV1 LVT27 LV1 LVT27 LV1 LVT27 LV1 LVT27 LV1
LVT27 LV1 LVT27 LV1 LVT27 LV1 LVT27 LV1 LVT27 LV1 LVT27 LV1 LVT27 LV1 LVT27 LV1 LVT27 LV1 LVT27
LV1 LVT27 LV1 LVT27 LV1 LVT27 LV1 LVT27 LV1 LVT27 LV1 LVT27 LV1 LVT27 LV1 LVT27 LV1 LVT27 LV1
LVT27 LV1 LVT27 LV1 LVT27 LV1 LVT27 LV1 LVT27 LV1 LVT27 LV1 LVT27 LV1 LVT27 LV1 LVT27 LV1 LVT27
LV1 LVT27 LV1 LVT27 LV1 LVT27 LV1 LVT27 LV1 LVT27 LV1 LVT27 LV1 LVT27 LV1 LVT27 LV1 LVT27 LV1
LVT27 LV1 LVT27 LV1 LVT27 LV1 LVT27 LV1 LVT27 LV1 LVT27 LV1 LVT27 LV1 LVT27 LV1 LVT27 LV1 LVT27
LV1 LVT27 LV1 LVT27 LV1 LVT27 LV1 LVT27 LV1 LVT27 LV1 LVT27 LV1 LVT27 LV1 LVT27 LV1 LVT27 LV1
LVT27 LV1 LVT27 LV1 LVT27 LV1 LVT27 LV1 LVT27 LV1 LVT27 LV1 LVT27 LV1 LVT27 LV1 LVT27 LV1 LVT27
LV1 LVT27 LV1 LVT27 LV1 LVT27 LV1 LVT27 LV1 LVT27 LV1 LVT27 LV1 LVT27 LV1 LVT27 LV1 LVT27 LV1
LVT27 LV1 LVT27 LV1 LVT27 LV1 LVT27 LV1 LVT27 LV1 LVT27 LV1 LVT27 LV1 LVT27 LV1 LVT27 LV1 LVT27
LV1 LVT27 LV1 LVT27 LV1 LVT27 LV1 LVT27 LV1 LVT27 LV1 LVT27 LV1 LVT27 LV1 LVT27 LV1 LVT27 LV1
LVT27 LV1 LVT27 LV1 LVT27 LV1 LVT27 LV1 LVT27 LV1 LVT27 LV1 LVT27 LV1 LVT27 LV1 LVT27 LV1 LVT27
LV1 LVT27 LV1 LVT27 LV1 LVT27 LV1 LVT27 LV1 LVT27 LV1 LVT27 LV1 LVT27 LV1 LVT27 LV1 LVT27 LV1
LVT27 LV1 LVT27 LV1 LVT27 LV1 LVT27 LV1 LVT27 LV1 LVT27 LV1 LVT27 LV1 LVT27 LV1 LVT27 LV1 LVT27
LV1 LVT27 LV1 LVT27 LV1 LVT27 LV1 LVT27 LV1 LVT27 LV1 LVT27 LV1 LVT27 LV1 LVT27 LV1 LVT27 LV1
LVT27 LV1 LVT27 LV1 LVT27 LV1 LVT27 LV1 LVT27 LV1 LVT27 LV1 LVT27 LV1 LVT27 LV1 LVT27 LV1 LVT27
LV1 LVT27 LV1 LVT27 LV1 LVT27 LV1 LVT27 LV1 LVT27 LV1 LVT27 LV1 LVT27 LV1 LVT27 LV1 LVT27 LV1
LVT27 LV1 LVT27 LV1 LVT27 LV1 LVT27 LV1 LVT27 LV1 LVT27 LV1 LVT27 LV1 LVT27 LV1 LVT27 LV1 LVT27
LV1 LVT27 LV1 LVT27 LV1 LVT27 LV1 LVT27 LV1 LVT27 LV1 LVT27 LV1 LVT27 LV1 LVT27 LV1 LVT27 LV1
LVT27 LV1 LVT27 LV1 LVT27 LV1 LVT27 LV1 LVT27 LV1 LVT27 LV1 LVT27 LV1 LVT27 LV1 LVT27 LV1 LVT27
LV1 LVT27 LV1 LVT27 LV1 LVT27 LV1 LVT27 LV1 LVT27 LV1 LVT27 LV1 LVT27 LV1 LVT27 LV1 LVT27 LV1
LVT27 LV1 LVT27 LV1 LVT27 LV1 LVT27 LV1 LVT27 LV1 LVT27 LV1 LVT27 LV1 LVT27 LV1 LVT27 LV1 LVT27
LV1 LVT27 LV1 LVT27 LV1 LVT27 LV1 LVT27 LV1 LVT27 LV1 LVT27 LV1 LVT27 LV1 LVT27 LV1 LVT27 LV1
LVT27 LV1 LVT27 LV1 LVT27 LV1 LVT27 LV1 LVT27 LV1 LVT27 LV1 LVT27 LV1 LVT27 LV1 LVT27 LV1 LVT27
LV1 LVT27 LV1 LVT27 LV1 LVT27 LV1 LVT27 LV1 LVT27 LV1 LVT27 LV1 LVT27 LV1 LVT27 LV1 LVT27 LV1
LVT27 LV1 LVT27 LV1 LVT27 LV1 LVT27 LV1 LVT27 LV1 LVT27 LV1 LVT27 LV1 LVT27 LV1 LVT27 LV1 LVT27
LV1 LVT27 LV1 LVT27 LV1 LVT27 LV1 LVT27 LV1 LVT27 LV1 LVT27 LV1 LVT27 LV1 LVT27 LV1 LVT27 LV1
LVT27 LV1 LVT27 LV1 LVT27 LV1 LVT27 LV1 LVT27 LV1 LVT27 LV1 LVT27 LV1 LVT27 LV1 LVT27 LV1 LVT27
LV1 LVT27 LV1 LVT27 LV1 LVT27 LV1 LVT27 LV1 LVT27 LV1 LVT27 LV1 LVT27 Other12 V23 Other4 T49
Other8994 EX1 Other737 EX16 Other16 EX16 Other207 CN1 Other158 EX2 Other80 CN12 Other513 EX1
Other226 EX1 Other149 EX5 Other1670 EX3 Other1 EX2 Other5 EX4 Other40 EX3 Other4 EX1 Other165 EX2
Other573 EX4 Other65 EX5 Other317 EX2 Other79 EX4 Other70 EX11 Other49 EX4 Other122 SM1 EX1 SM1
Other53 EX15 Other41 EX1 Other2 EX2 Other10 EX3 SM1 Other45 SM3 EX4 SM2 EX2 Other2 PP1 Other4 EX1
Other10 PP1 Other50 EX3 Other36 EX5 SM1 EX8 Other16 SM2 Other44 EX1 Other12 EX2 SM1 Other48 SM3
EX9 SM1 EX1 Other1 PP2 Other5 EX4 Other1 SM1 EX1 Other92 SM3 EX3 SM2 EX4 Other6 EX1 Other2 EX1
Other157 EX1 SM3 EX8 Other21 EX2 SM2 Other55 EX2 Other1 EX1 SM1 EX1 SM4 Other2 SM2 Other2 SM2 EX1
Other9 EX1 Other10 SM2 Other2 EX7 Other3 EX5 Other67 EX1 SM2 EX6 Other1 EX1 Other2 EX1 Other1 EX3
SM1 Other1 SM2 EX3 PP1 EX1 Other14 EX2 Other82 SM3 EX8 SM2 EX3 SM1 EX1 Other23 EX1 Other81 EX1 SM2
EX6 SM1 EX1 SM2 EX1 SM1 EX2 SM1 EX2 Other235 EX1 SM2 EX4 Other2 SM4 EX2 SM1 EX2 Other27 EX2
Other82 SM3 EX8 SM2 EX1 SM1 EX2 Other106 EX1 SM1 EX1 SM2 EX8 Other101 EX1 SM1 EX1 Other2 EX4 SM1
EX5 Other256 SM3 EX9 SM1 EX2 Other245 EX1 SM5 Other1 SM2 Other2 EX4 PP1 SM1 PP1 SM1 EX1 Other141
SM3 EX4 Other2 EX2 SM4 EX1 Other3 SM1 Other28 EX10 Other40 EX6 SM1 PP1 EX4 Other8 EX1 Other9 EX6
SM2 EX3 Other40 PP6 EX13 SM1 EX2 Other405 SM1 EX7 Other1 EX6 SM1 EX1 Other82 EX22 Other1 SM1 EX7
SM1 EX2 SM1 EX2 Other122 EX6 Other3 EX1 Other1 EX2 Other1 EX7 PP1 EX1 Other66 SM5 Other1 EX2
Other1 SM2 EX1 SM1 EX1 Other347 EX2 SM2 Other9 EX2 PP1 SM1 Other48 SM2 EX5 Other3 SM2 EX3 Other23
EX1 Other5333 CN16 EX1 Other6 EX15 Other11464 EX12 SM3 EX3 Other2496 EX5 Other59 EX7 Other556 V1
Other3 V4 Other484 EX1 Other1 SM55 Other7 EX4 Other81 EX1 Other11 EX2 Other19627 EX2 Other1 CN4
Other4700 EX46 Other2 EX23 Other542 EX5 Other3 EX6 CN8 EX8 Other2 EX7 Other30 EX4 Other148 EX3
Other1979 EX55 Other4 EX50 Other8 EX1 Other14 EX1 Other22 EX5 Other1 EX15 Other1360 EX7 Other1
EX17 Other2 EX7 Other1 EX2 Other1 EX5 Other100 EX1 Other160 EX7 Other375 EX1 Other61 EX4 Other508
EX4 Other254 EX2 Other736 EX7 Other109 EX7 Other2203 RI26 Other507 EX5 Other789504 CN32 EX96 CN128
EX240 CN3600 Other192512"

/-- The classes by which texts are cut into words, with their names. -/
def wordBreakNames : List (String × List String) := [
  ("LE", ["aletter", "le"]), ("CR", ["cr"]), ("DQ", ["doublequote", "dq"]),
  ("Extend", ["extend"]), ("EX", ["extendnumlet", "ex"]), ("FO", ["format", "fo"]),
  ("HL", ["hebrewletter", "hl"]), ("KA", ["katakana", "ka"]), ("LF", ["lf"]),
  ("ML", ["midletter", "ml"]), ("MN", ["midnum", "mn"]), ("MB", ["midnumlet", "mb"]),
  ("NL", ["newline", "nl"]), ("NU", ["numeric", "nu"]), ("RI", ["regionalindicator", "ri"]),
  ("SQ", ["singlequote", "sq"]), ("Wsegspace", ["wsegspace"]), ("ZWJ", ["zwj"])]

/-- The class of each run of code points. -/
def wordBreakTable : String :=
"Other10 LF1 NL2 CR1 Other18 Wsegspace1 Other1 DQ1 Other4 SQ1 Other4 MN1 Other1 MB1 Other1 NU10 ML1
MN1 Other5 LE26 Other4 EX1 Other1 LE26 Other10 NL1 Other36 LE1 Other2 FO1 Other7 LE1 Other1 ML1
Other2 LE1 Other5 LE23 Other1 LE31 Other1 LE480 Other6 LE34 Extend112 LE5 Other1 LE2 Other2 LE4
MN1 LE1 Other6 LE1 ML1 LE3 Other1 LE1 Other1 LE20 Other1 LE83 Other1 LE139 Other1 Extend7 LE166
Other1 LE38 Other2 LE4 Other1 LE1 ML1 LE41 MN1 LE1 Other6 Extend45 Other1 Extend1 Other1 Extend2
Other1 Extend2 Other1 Extend1 Other8 HL27 Other4 HL4 LE1 ML1 Other11 NU6 Other6 MN2 Other2
Extend11 Other1 FO1 Other3 LE43 Extend21 NU10 Other1 NU1 MN1 Other1 LE2 Extend1 LE99 Other1 LE1
Extend7 NU1 Other1 Extend6 LE2 Extend2 Other1 Extend4 LE2 NU10 LE3 Other2 LE1 Other15 LE2 Extend1
LE30 Extend27 Other2 LE89 Extend11 LE1 Other14 NU10 LE33 Extend9 LE2 Other2 MN1 Other1 LE1 Other2
Extend1 Other2 LE22 Extend4 LE1 Extend9 LE1 Extend3 LE1 Extend5 Other18 LE25 Extend3 Other4 LE11
Other5 LE24 Other1 LE6 Other1 NU2 Other5 Extend9 LE42 Extend24 NU1 Extend33 LE54 Extend3 LE1
Extend18 LE1 Extend7 LE10 Extend2 Other2 NU10 Other1 LE16 Extend3 Other1 LE8 Other2 LE2 Other2
LE22 Other1 LE7 Other1 LE1 Other3 LE4 Other2 Extend1 LE1 Extend7 Other2 Extend2 Other2 Extend3 LE1
Other8 Extend1 Other4 LE2 Other1 LE3 Extend2 Other2 NU10 LE2 Other10 LE1 Other1 Extend1 Other2
Extend3 Other1 LE6 Other4 LE2 Other2 LE22 Other1 LE7 Other1 LE2 Other1 LE2 Other1 LE2 Other2
Extend1 Other1 Extend5 Other4 Extend2 Other2 Extend3 Other3 Extend1 Other7 LE4 Other1 LE1 Other7
NU10 Extend2 LE3 Extend1 Other11 Extend3 Other1 LE9 Other1 LE3 Other1 LE22 Other1 LE7 Other1 LE2
Other1 LE5 Other2 Extend1 LE1 Extend8 Other1 Extend3 Other1 Extend3 Other2 LE1 Other15 LE2 Extend2
Other2 NU10 Other9 LE1 Extend6 Other1 Extend3 Other1 LE8 Other2 LE2 Other2 LE22 Other1 LE7 Other1
LE2 Other1 LE5 Other2 Extend1 LE1 Extend7 Other2 Extend2 Other2 Extend3 Other7 Extend3 Other4 LE2
Other1 LE3 Extend2 Other2 NU10 Other1 LE1 Other16 Extend1 LE1 Other1 LE6 Other3 LE3 Other1 LE4
Other3 LE2 Other1 LE1 Other1 LE2 Other3 LE2 Other3 LE3 Other3 LE12 Other4 Extend5 Other3 Extend3
Other1 Extend4 Other2 LE1 Other6 Extend1 Other14 NU10 Other16 Extend5 LE8 Other1 LE3 Other1 LE23
Other1 LE16 Other2 Extend1 LE1 Extend7 Other1 Extend3 Other1 Extend4 Other7 Extend2 Other1 LE3
Other2 LE1 Other2 LE2 Extend2 Other2 NU10 Other16 LE1 Extend3 Other1 LE8 Other1 LE3 Other1 LE23
Other1 LE10 Other1 LE5 Other2 Extend1 LE1 Extend7 Other1 Extend3 Other1 Extend4 Other7 Extend2
Other6 LE2 Other1 LE2 Extend2 Other2 NU10 Other1 LE2 Extend1 Other12 Extend4 LE9 Other1 LE3 Other1
LE41 Extend2 LE1 Extend7 Other1 Extend3 Other1 Extend4 LE1 Other5 LE3 Extend1 Other7 LE3 Extend2
Other2 NU10 Other10 LE6 Other1 Extend3 Other1 LE18 Other3 LE24 Other1 LE9 Other1 LE1 Other2 LE7
Other3 Extend1 Other4 Extend6 Other1 Extend1 Other1 Extend8 Other6 NU10 Other2 Extend2 Other61
Extend1 Other2 Extend7 Other12 Extend8 Other1 NU10 Other87 Extend1 Other2 Extend9 Other11 Extend7
Other1 NU10 Other38 LE1 Other23 Extend2 Other6 NU10 Other11 Extend1 Other1 Extend1 Other1 Extend1
Other4 Extend2 LE8 Other1 LE36 Other4 Extend20 Other1 Extend2 LE5 Extend11 Other1 Extend36 Other9
Extend1 Other100 Extend20 Other1 NU10 Other12 Extend4 Other4 Extend3 Other1 Extend3 Other2 Extend7
Other3 Extend4 Other13 Extend12 Other1 Extend1 NU10 Extend4 Other2 LE38 Other1 LE1 Other5 LE1
Other2 LE43 Other1 LE333 Other1 LE4 Other2 LE7 Other1 LE1 Other1 LE4 Other2 LE41 Other1 LE4 Other2
LE33 Other1 LE4 Other2 LE7 Other1 LE1 Other1 LE4 Other2 LE15 Other1 LE57 Other1 LE4 Other2 LE67
Other2 Extend3 Other32 LE16 Other16 LE86 Other2 LE6 Other3 LE620 Other2 LE17 Wsegspace1 LE26
Other5 LE75 Other3 LE11 Other7 LE18 Extend4 Other9 LE19 Extend3 Other11 LE18 Extend2 Other12 LE13
Other1 LE3 Other1 Extend2 Other64 Extend32 Other9 Extend1 Other2 NU10 Other33 Extend3 FO1 Extend1
NU10 Other6 LE89 Other7 LE5 Extend2 LE34 Extend1 LE1 Other5 LE70 Other10 LE31 Other1 Extend12
Other4 Extend12 Other10 NU10 Other128 NU11 Other37 LE23 Extend5 Other57 Extend10 Other1 Extend29
Other2 Extend1 NU10 Other6 NU10 Other22 Extend31 Other49 Extend5 LE47 Extend17 LE8 Other3 NU10
Other17 Extend9 Other12 Extend3 LE30 Extend13 LE2 NU10 LE44 Extend14 Other12 LE36 Extend20 Other8
NU10 Other3 LE3 NU10 LE36 Other2 LE11 Other5 LE43 Other2 LE3 Other16 Extend3 Other1 Extend21 LE4
Extend1 LE6 Extend1 LE2 Extend3 LE1 Other5 LE192 Extend64 LE278 Other2 LE6 Other2 LE38 Other2 LE6
Other2 LE8 Other1 LE1 Other1 LE1 Other1 LE1 Other1 LE31 Other2 LE53 Other1 LE7 Other1 LE1 Other3
LE3 Other1 LE7 Other3 LE4 Other2 LE6 Other4 LE13 Other5 LE3 Other1 LE7 Other3 Wsegspace7 Other1
Wsegspace3 Other1 Extend1 ZWJ1 FO2 Other8 MB2 Other10 MB1 Other2 ML1 NL2 FO5 EX1 Other15 EX2
Other3 MN1 Other15 EX1 Other10 Wsegspace1 FO5 Other1 FO10 Other1 LE1 Other13 LE1 Other16 LE13
Other51 Extend33 Other17 LE1 Other4 LE1 Other2 LE10 Other1 LE1 Other3 LE5 Other6 LE1 Other1 LE1
Other1 LE1 Other1 LE4 Other1 LE11 Other2 LE4 Other5 LE5 Other4 LE1 Other17 LE41 Other813 LE52
Other1814 LE229 Other6 LE4 Extend3 LE2 Other12 LE38 Other1 LE1 Other5 LE1 Other2 LE56 Other7 LE1
Other15 Extend1 LE23 Other9 LE7 Other1 LE7 Other1 LE7 Other1 LE7 Other1 LE7 Other1 LE7 Other1 LE7
Other1 LE7 Other1 Extend32 Other47 LE1 Other464 Wsegspace1 Other4 LE1 Other36 Extend6 Other1 KA5
Other5 LE2 Other92 Extend2 KA2 Other3 KA91 Other1 KA4 Other5 LE43 Other1 LE94 Other17 LE32 Other48
KA16 Other208 KA47 Other1 KA88 Other27816 LE1165 Other67 LE46 Other2 LE269 Other3 LE16 NU10 LE2
Other20 LE47 Extend4 Other1 Extend10 Other1 LE31 Extend2 LE80 Extend2 Other22 LE198 Other2 LE2
Other1 LE1 Other1 LE8 Other21 LE16 Extend1 LE3 Extend1 LE4 Extend1 LE23 Extend5 Other4 Extend1
Other19 LE52 Other12 Extend2 LE50 Extend18 Other10 NU10 Other6 Extend18 LE6 Other3 LE1 Other1 LE2
Extend1 NU10 LE28 Extend8 Other2 LE23 Extend13 Other12 LE29 Other3 Extend4 LE47 Extend14 Other14
LE1 NU10 Other11 Extend1 Other10 NU10 Other6 LE41 Extend14 Other9 LE3 Extend1 LE8 Extend2 Other2
NU10 Other33 Extend3 Other50 Extend1 Other1 Extend3 Other2 Extend2 Other5 Extend2 Other1 Extend1
Other30 LE11 Extend5 Other2 LE3 Extend2 Other10 LE6 Other2 LE6 Other2 LE6 Other9 LE7 Other1 LE7
Other1 LE58 Other6 LE115 Extend8 Other1 Extend2 Other2 NU10 Other6 LE11172 Other12 LE23 Other4
LE49 Other8964 LE7 Other12 LE5 Other5 HL1 Extend1 HL10 Other1 HL13 Other1 HL5 Other1 HL1 Other1
HL2 Other1 HL2 Other1 HL10 LE98 Other33 LE363 Other18 LE64 Other2 LE54 Other40 LE12 Other4
Extend16 Other3 ML1 Other12 Extend16 Other3 EX2 Other24 EX3 MN1 Other1 MB1 Other1 MN1 ML1 Other26
LE5 Other1 LE135 Other2 FO1 Other7 MB1 Other4 MN1 Other1 MB1 Other1 NU10 ML1 MN1 Other5 LE26
Other4 EX1 Other1 LE26 Other11 KA56 Extend2 LE31 Other3 LE6 Other2 LE6 Other2 LE6 Other2 LE3
Other28 FO3 Other4 LE12 Other1 LE26 Other1 LE19 Other1 LE2 Other1 LE15 Other2 LE14 Other34 LE123
Other69 LE53 Other136 Extend1 Other130 LE29 Other3 LE49 Other15 Extend1 Other31 LE32 Other13 LE30
Other5 LE38 Extend5 Other5 LE30 Other2 LE36 Other4 LE8 Other1 LE5 Other42 LE158 Other2 NU10 Other6
LE36 Other4 LE36 Other4 LE40 Other8 LE52 Other12 LE11 Other1 LE15 Other1 LE7 Other1 LE2 Other1
LE11 Other1 LE15 Other1 LE7 Other1 LE2 Other3 LE52 Other12 LE311 Other9 LE22 Other10 LE8 Other24
LE6 Other1 LE42 Other1 LE9 Other69 LE6 Other2 LE1 Other1 LE44 Other1 LE2 Other3 LE1 Other2 LE23
Other10 LE23 Other9 LE31 Other65 LE19 Other1 LE2 Other10 LE22 Other10 LE26 Other70 LE56 Other6 LE2
Other64 LE1 Extend3 Other1 Extend2 Other5 Extend4 LE4 Other1 LE3 Other1 LE29 Other2 Extend3 Other4
Extend1 Other32 LE29 Other3 LE29 Other35 LE8 Other1 LE28 Extend2 Other25 LE54 Other10 LE22 Other10
LE19 Other13 LE18 Other110 LE73 Other55 LE51 Other13 LE51 Other13 LE36 Extend4 Other8 NU10 Other6
NU10 LE28 Other3 Extend5 Other1 LE23 Other250 LE42 Other1 Extend2 Other3 LE2 Other16 LE3 Other55
Extend4 LE29 Other10 LE1 Other8 LE22 Extend11 Other31 LE18 Extend4 Other42 LE21 Other27 LE23
Other9 Extend3 LE53 Extend15 Other31 NU10 Extend1 LE2 Extend2 LE1 Other9 Extend4 LE45 Extend11
Other2 NU1 Other4 Extend1 Other10 NU1 Other2 LE25 Other7 NU10 Other6 Extend3 LE36 Extend14 Other1
NU10 Other4 LE1 Extend2 LE1 Other8 LE35 Extend1 Other2 LE1 Other9 Extend3 LE48 Extend14 LE4 Other4
Extend4 Other1 Extend2 NU10 LE1 Other1 LE1 Other35 LE18 Other1 LE25 Extend12 Other6 Extend1 LE2
Extend1 Other62 LE7 Other1 LE1 Other1 LE4 Other1 LE15 Other1 LE10 Other7 LE47 Extend12 Other5 NU10
Other6 Extend4 Other1 LE8 Other2 LE2 Other2 LE22 Other1 LE7 Other1 LE2 Other1 LE5 Other1 Extend2
LE1 Extend7 Other2 Extend2 Other2 Extend3 Other2 LE1 Other6 Extend1 Other5 LE5 Extend2 Other2
Extend7 Other3 Extend5 Other11 LE10 Other1 LE1 Other2 LE1 Other1 LE38 Other1 LE1 Extend9 Other1
Extend1 Other2 Extend1 Other1 Extend4 Other1 Extend5 LE1 Extend1 LE1 Other13 Extend2 Other29 LE53
Extend18 LE4 Other5 NU10 Other4 Extend1 LE3 Other30 LE48 Extend20 LE2 Other1 LE1 Other8 NU10
Other166 LE47 Extend7 Other2 Extend9 Other23 LE4 Extend2 Other34 LE48 Extend17 Other3 LE1 Other11
NU10 Other38 LE43 Extend13 LE1 Other7 NU10 Other6 NU20 Other57 Extend15 Other4 NU10 Other198 LE44
Extend15 Other101 LE64 NU10 Other21 LE8 Other2 LE1 Other2 LE8 Other1 LE2 Other1 LE24 Extend6
Other1 Extend2 Other2 Extend4 LE1 Extend1 LE1 Extend2 Other12 NU10 Other70 LE8 Other2 LE39 Extend7
Other2 Extend7 LE1 Other1 LE1 Extend1 Other27 LE1 Extend10 LE40 Extend7 LE1 Extend4 Other8 Extend1
Other8 LE1 Extend11 LE46 Extend16 Other3 LE1 Other18 LE73 Other199 LE33 Other15 NU10 Other6 LE9
Other1 LE37 Extend8 Other1 Extend8 LE1 Other15 NU10 Other24 LE30 Other2 Extend22 Other1 Extend14
Other73 LE7 Other1 LE2 Other1 LE38 Extend6 Other3 Extend1 Other1 Extend2 Other1 Extend7 LE1
Extend1 Other8 NU10 Other6 LE6 Other1 LE2 Other1 LE32 Extend5 Other1 Extend2 Other1 Extend5 LE1
Other7 NU10 Other310 LE19 Extend4 Other9 Extend2 LE1 Extend1 LE13 Other1 LE34 Extend7 Other3
Extend5 Other13 NU10 Extend1 Other85 LE1 Other79 LE922 Other102 LE111 Other17 LE196 Other2636 LE97
Other15 LE1072 FO16 Extend1 LE6 Extend15 Other10 LE3995 Other5 LE583 Other6841 LE30 Extend18 NU10
Other1734 LE569 Other7 LE31 Other1 NU10 Other6 LE79 Other1 NU10 Other6 LE30 Other2 Extend5 Other11
LE48 Extend7 Other9 LE4 Other12 NU10 Other9 LE21 Other5 LE19 Other432 LE45 Other3 NU10 Other198
LE64 Other128 LE75 Other4 Extend1 LE1 Extend55 Other7 Extend4 LE13 Other64 LE2 Other1 LE1 Extend1
Other11 Extend2 Other16382 KA4 Other1 KA7 Other1 KA2 Other1 KA1 Other287 KA3 Other50 KA1 Other14
KA4 Other2712 LE107 Other5 LE13 Other3 LE9 Other7 LE10 Other3 Extend2 Other1 FO4 Other4172 NU10
Other518 Extend46 Other2 Extend23 Other542 Extend5 Other3 Extend6 FO8 Extend8 Other2 Extend7
Other30 Extend4 Other148 Extend3 Other443 LE85 Other1 LE71 Other1 LE2 Other2 LE1 Other2 LE2 Other2
LE4 Other1 LE12 Other1 LE1 Other1 LE7 Other1 LE65 Other1 LE4 Other2 LE8 Other1 LE7 Other1 LE28
Other1 LE4 Other1 LE5 Other1 LE1 Other3 LE7 Other1 LE340 Other2 LE25 Other1 LE25 Other1 LE31
Other1 LE25 Other1 LE31 Other1 LE25 Other1 LE31 Other1 LE25 Other1 LE31 Other1 LE25 Other1 LE8
Other2 NU50 Other512 Extend55 Other4 Extend50 Other8 Extend1 Other14 Extend1 Other22 Extend5
Other1 Extend15 Other1104 LE31 Other6 LE6 Other213 Extend7 Other1 Extend17 Other2 Extend7 Other1
Extend2 Other1 Extend5 Other5 LE62 Other33 Extend1 Other112 LE45 Other3 Extend7 LE7 Other2 NU10
Other4 LE1 Other321 LE30 Extend1 Other17 LE44 Extend4 NU10 Other470 LE28 Extend4 NU10 Other214
LE30 Extend2 LE1 NU10 Other485 LE7 Other1 LE4 Other1 LE2 Other1 LE15 Other1 LE197 Other11 Extend7
Other41 LE68 Extend7 LE1 Other4 NU10 Other1190 LE4 Other1 LE27 Other1 LE2 Other1 LE1 Other2 LE1
Other1 LE10 Other1 LE4 Other1 LE1 Other1 LE1 Other6 LE1 Other4 LE1 Other1 LE1 Other1 LE1 Other1
LE3 Other1 LE2 Other1 LE1 Other2 LE1 Other1 LE1 Other1 LE1 Other1 LE1 Other1 LE1 Other1 LE2 Other1
LE1 Other2 LE4 Other1 LE7 Other1 LE4 Other1 LE4 Other1 LE1 Other1 LE10 Other1 LE17 Other5 LE3
Other1 LE5 Other1 LE17 Other628 LE26 Other6 LE26 Other6 LE26 Other92 RI26 Other507 Extend5
Other2032 NU10 Other787463 FO1 Other30 Extend96 Other128 Extend240 Other196112"

/-- The classes by which texts are cut into sentences, with their names. -/
def sentenceBreakNames : List (String × List String) := [
  ("AT", ["aterm", "at"]), ("CR", ["cr"]), ("CL", ["close", "cl"]), ("EX", ["extend", "ex"]),
  ("FO", ["format", "fo"]), ("LF", ["lf"]), ("LO", ["lower", "lo"]), ("NU", ["numeric", "nu"]),
  ("LE", ["oletter", "le"]), ("SC", ["scontinue", "sc"]), ("ST", ["sterm", "st"]),
  ("SE", ["sep", "se"]), ("SP", ["sp"]), ("UP", ["upper", "up"])]

/-- The class of each run of code points. -/
def sentenceBreakTable : String :=
"Other9 SP1 LF1 SP2 CR1 Other18 SP1 ST1 CL1 Other4 CL3 Other2 SC2 AT1 Other1 NU10 SC2 Other3 ST1
Other1 UP26 CL1 Other1 CL1 Other3 LO26 CL1 Other1 CL1 Other7 SE1 Other26 SP1 Other9 LO1 CL1 Other1
FO1 Other7 LO1 Other4 LO1 CL1 Other4 UP23 Other1 UP7 LO24 Other1 LO8 UP1 LO1 UP1 LO1 UP1 LO1 UP1
LO1 UP1 LO1 UP1 LO1 UP1 LO1 UP1 LO1 UP1 LO1 UP1 LO1 UP1 LO1 UP1 LO1 UP1 LO1 UP1 LO1 UP1 LO1 UP1
LO1 UP1 LO1 UP1 LO1 UP1 LO1 UP1 LO1 UP1 LO1 UP1 LO1 UP1 LO1 UP1 LO1 UP1 LO1 UP1 LO1 UP1 LO1 UP1
LO2 UP1 LO1 UP1 LO1 UP1 LO1 UP1 LO1 UP1 LO1 UP1 LO1 UP1 LO1 UP1 LO2 UP1 LO1 UP1 LO1 UP1 LO1 UP1
LO1 UP1 LO1 UP1 LO1 UP1 LO1 UP1 LO1 UP1 LO1 UP1 LO1 UP1 LO1 UP1 LO1 UP1 LO1 UP1 LO1 UP1 LO1 UP1
LO1 UP1 LO1 UP1 LO1 UP1 LO1 UP1 LO1 UP1 LO1 UP1 LO1 UP1 LO1 UP2 LO1 UP1 LO1 UP1 LO3 UP2 LO1 UP1
LO1 UP2 LO1 UP3 LO2 UP4 LO1 UP2 LO1 UP3 LO3 UP2 LO1 UP2 LO1 UP1 LO1 UP1 LO1 UP2 LO1 UP1 LO2 UP1
LO1 UP2 LO1 UP3 LO1 UP1 LO1 UP2 LO2 LE1 UP1 LO3 LE4 UP2 LO1 UP2 LO1 UP2 LO1 UP1 LO1 UP1 LO1 UP1
LO1 UP1 LO1 UP1 LO1 UP1 LO1 UP1 LO1 UP1 LO2 UP1 LO1 UP1 LO1 UP1 LO1 UP1 LO1 UP1 LO1 UP1 LO1 UP1
LO1 UP1 LO1 UP1 LO2 UP2 LO1 UP1 LO1 UP3 LO1 UP1 LO1 UP1 LO1 UP1 LO1 UP1 LO1 UP1 LO1 UP1 LO1 UP1
LO1 UP1 LO1 UP1 LO1 UP1 LO1 UP1 LO1 UP1 LO1 UP1 LO1 UP1 LO1 UP1 LO1 UP1 LO1 UP1 LO1 UP1 LO1 UP1
LO1 UP1 LO1 UP1 LO1 UP1 LO1 UP1 LO1 UP1 LO1 UP1 LO1 UP1 LO1 UP1 LO1 UP1 LO1 UP1 LO7 UP2 LO1 UP2
LO2 UP1 LO1 UP4 LO1 UP1 LO1 UP1 LO1 UP1 LO1 UP1 LO69 LE1 LO36 LE7 LO2 Other4 LE12 Other14 LO5
Other7 LE1 Other1 LE1 Other17 EX112 UP1 LO1 UP1 LO1 LE1 Other1 UP1 LO1 Other2 LO4 SC1 UP1 Other6
UP1 Other1 UP3 Other1 UP1 Other1 UP2 LO1 UP17 Other1 UP9 LO35 UP1 LO2 UP3 LO3 UP1 LO1 UP1 LO1 UP1
LO1 UP1 LO1 UP1 LO1 UP1 LO1 UP1 LO1 UP1 LO1 UP1 LO1 UP1 LO1 UP1 LO1 UP1 LO5 UP1 LO1 Other1 UP1 LO1
UP2 LO2 UP51 LO48 UP1 LO1 UP1 LO1 UP1 LO1 UP1 LO1 UP1 LO1 UP1 LO1 UP1 LO1 UP1 LO1 UP1 LO1 UP1 LO1
UP1 LO1 UP1 LO1 UP1 LO1 UP1 LO1 UP1 LO1 UP1 LO1 UP1 LO1 Other1 EX7 UP1 LO1 UP1 LO1 UP1 LO1 UP1 LO1
UP1 LO1 UP1 LO1 UP1 LO1 UP1 LO1 UP1 LO1 UP1 LO1 UP1 LO1 UP1 LO1 UP1 LO1 UP1 LO1 UP1 LO1 UP1 LO1
UP1 LO1 UP1 LO1 UP1 LO1 UP1 LO1 UP1 LO1 UP1 LO1 UP1 LO1 UP1 LO1 UP1 LO1 UP1 LO1 UP1 LO1 UP2 LO1
UP1 LO1 UP1 LO1 UP1 LO1 UP1 LO1 UP1 LO1 UP1 LO2 UP1 LO1 UP1 LO1 UP1 LO1 UP1 LO1 UP1 LO1 UP1 LO1
UP1 LO1 UP1 LO1 UP1 LO1 UP1 LO1 UP1 LO1 UP1 LO1 UP1 LO1 UP1 LO1 UP1 LO1 UP1 LO1 UP1 LO1 UP1 LO1
UP1 LO1 UP1 LO1 UP1 LO1 UP1 LO1 UP1 LO1 UP1 LO1 UP1 LO1 UP1 LO1 UP1 LO1 UP1 LO1 UP1 LO1 UP1 LO1
UP1 LO1 UP1 LO1 UP1 LO1 UP1 LO1 UP1 LO1 UP1 LO1 UP1 LO1 UP1 LO1 UP1 LO1 UP1 LO1 UP1 LO1 UP1 LO1
UP1 LO1 UP1 LO1 UP1 LO1 UP1 LO1 UP1 LO1 UP1 LO1 Other1 UP38 Other2 LE1 Other3 SC1 Other2 LO41 ST1
Other7 EX45 Other1 EX1 Other1 EX2 Other1 EX2 Other1 EX1 Other8 LE27 Other4 LE5 Other12 NU6 Other6
SC2 Other2 EX11 Other1 FO1 ST3 LE43 EX21 NU10 Other1 NU2 Other1 LE2 EX1 LE99 ST1 LE1 EX7 NU1
Other1 EX6 LE2 EX2 Other1 EX4 LE2 NU10 LE3 Other2 LE1 ST3 Other12 FO1 LE1 EX1 LE30 EX27 Other2
LE89 EX11 LE1 Other14 NU10 LE33 EX9 LE2 Other2 SC1 ST1 LE1 Other2 EX1 Other2 LE22 EX4 LE1 EX9 LE1
EX3 LE1 EX5 Other9 ST1 Other1 ST1 Other3 ST2 Other1 LE25 EX3 Other4 LE11 Other5 LE24 Other1 LE6
Other1 NU2 Other5 EX9 LE42 EX24 NU1 EX33 LE54 EX3 LE1 EX18 LE1 EX7 LE10 EX2 ST2 NU10 Other1 LE16
EX3 Other1 LE8 Other2 LE2 Other2 LE22 Other1 LE7 Other1 LE1 Other3 LE4 Other2 EX1 LE1 EX7 Other2
EX2 Other2 EX3 LE1 Other8 EX1 Other4 LE2 Other1 LE3 EX2 Other2 NU10 LE2 Other10 LE1 Other1 EX1
Other2 EX3 Other1 LE6 Other4 LE2 Other2 LE22 Other1 LE7 Other1 LE2 Other1 LE2 Other1 LE2 Other2
EX1 Other1 EX5 Other4 EX2 Other2 EX3 Other3 EX1 Other7 LE4 Other1 LE1 Other7 NU10 EX2 LE3 EX1
Other11 EX3 Other1 LE9 Other1 LE3 Other1 LE22 Other1 LE7 Other1 LE2 Other1 LE5 Other2 EX1 LE1 EX8
Other1 EX3 Other1 EX3 Other2 LE1 Other15 LE2 EX2 Other2 NU10 Other9 LE1 EX6 Other1 EX3 Other1 LE8
Other2 LE2 Other2 LE22 Other1 LE7 Other1 LE2 Other1 LE5 Other2 EX1 LE1 EX7 Other2 EX2 Other2 EX3
Other7 EX3 Other4 LE2 Other1 LE3 EX2 Other2 NU10 Other1 LE1 Other16 EX1 LE1 Other1 LE6 Other3 LE3
Other1 LE4 Other3 LE2 Other1 LE1 Other1 LE2 Other3 LE2 Other3 LE3 Other3 LE12 Other4 EX5 Other3
EX3 Other1 EX4 Other2 LE1 Other6 EX1 Other14 NU10 Other16 EX5 LE8 Other1 LE3 Other1 LE23 Other1
LE16 Other2 EX1 LE1 EX7 Other1 EX3 Other1 EX4 Other7 EX2 Other1 LE3 Other2 LE1 Other2 LE2 EX2
Other2 NU10 Other16 LE1 EX3 Other1 LE8 Other1 LE3 Other1 LE23 Other1 LE10 Other1 LE5 Other2 EX1
LE1 EX7 Other1 EX3 Other1 EX4 Other7 EX2 Other6 LE2 Other1 LE2 EX2 Other2 NU10 Other1 LE2 EX1
Other12 EX4 LE9 Other1 LE3 Other1 LE41 EX2 LE1 EX7 Other1 EX3 Other1 EX4 LE1 Other5 LE3 EX1 Other7
LE3 EX2 Other2 NU10 Other10 LE6 Other1 EX3 Other1 LE18 Other3 LE24 Other1 LE9 Other1 LE1 Other2
LE7 Other3 EX1 Other4 EX6 Other1 EX1 Other1 EX8 Other6 NU10 Other2 EX2 Other13 LE48 EX1 LE2 EX7
Other5 LE7 EX8 Other1 NU10 Other39 LE2 Other1 LE1 Other1 LE5 Other1 LE24 Other1 LE1 Other1 LE10
EX1 LE2 EX9 LE1 Other2 LE5 Other1 LE1 Other1 EX7 Other1 NU10 Other2 LE4 Other32 LE1 Other23 EX2
Other6 NU10 Other11 EX1 Other1 EX1 Other1 EX1 CL4 EX2 LE8 Other1 LE36 Other4 EX20 Other1 EX2 LE5
EX11 Other1 EX36 Other9 EX1 Other57 LE43 EX20 LE1 NU10 ST2 Other4 LE6 EX4 LE4 EX3 LE1 EX3 LE2 EX7
LE3 EX4 LE13 EX12 LE1 EX1 NU10 EX4 Other2 UP38 Other1 UP1 Other5 UP1 Other2 LE43 Other1 LO1 LE332
Other1 LE4 Other2 LE7 Other1 LE1 Other1 LE4 Other2 LE41 Other1 LE4 Other2 LE33 Other1 LE4 Other2
LE7 Other1 LE1 Other1 LE4 Other2 LE15 Other1 LE57 Other1 LE4 Other2 LE67 Other2 EX3 Other2 ST1
Other4 ST2 Other23 LE16 Other16 UP86 Other2 LO6 Other3 LE620 Other1 ST1 LE17 SP1 LE26 CL2 Other3
LE75 Other3 LE11 Other7 LE18 EX4 Other9 LE19 EX3 ST2 Other9 LE18 EX2 Other12 LE13 Other1 LE3
Other1 EX2 Other12 LE52 EX32 ST2 Other1 LE1 Other4 LE1 EX1 Other2 NU10 Other24 SC1 ST1 Other4 SC1
ST1 Other1 EX3 FO1 EX1 NU10 Other6 LE89 Other7 LE5 EX2 LE34 EX1 LE1 Other5 LE70 Other10 LE31
Other1 EX12 Other4 EX12 Other8 ST2 NU10 LE30 Other2 LE5 Other11 LE44 Other4 LE26 Other6 NU11
Other37 LE23 EX5 Other4 LE53 EX10 Other1 EX29 Other2 EX1 NU10 Other6 NU10 Other13 LE1 ST4 Other4
EX31 Other49 EX5 LE47 EX17 LE8 Other1 ST2 NU10 ST2 Other2 ST2 Other11 EX9 Other9 ST3 EX3 LE30 EX13
LE2 NU10 LE44 EX14 Other12 LE36 EX20 Other3 ST2 Other3 NU10 Other3 LE3 NU10 LE36 ST2 LO9 UP1 LO1
Other5 LE43 Other2 LE3 Other16 EX3 Other1 EX21 LE4 EX1 LE6 EX1 LE2 EX3 LE1 Other5 LO192 EX64 UP1
LO1 UP1 LO1 UP1 LO1 UP1 LO1 UP1 LO1 UP1 LO1 UP1 LO1 UP1 LO1 UP1 LO1 UP1 LO1 UP1 LO1 UP1 LO1 UP1
LO1 UP1 LO1 UP1 LO1 UP1 LO1 UP1 LO1 UP1 LO1 UP1 LO1 UP1 LO1 UP1 LO1 UP1 LO1 UP1 LO1 UP1 LO1 UP1
LO1 UP1 LO1 UP1 LO1 UP1 LO1 UP1 LO1 UP1 LO1 UP1 LO1 UP1 LO1 UP1 LO1 UP1 LO1 UP1 LO1 UP1 LO1 UP1
LO1 UP1 LO1 UP1 LO1 UP1 LO1 UP1 LO1 UP1 LO1 UP1 LO1 UP1 LO1 UP1 LO1 UP1 LO1 UP1 LO1 UP1 LO1 UP1
LO1 UP1 LO1 UP1 LO1 UP1 LO1 UP1 LO1 UP1 LO1 UP1 LO1 UP1 LO1 UP1 LO1 UP1 LO1 UP1 LO1 UP1 LO1 UP1
LO1 UP1 LO1 UP1 LO1 UP1 LO1 UP1 LO1 UP1 LO1 UP1 LO1 UP1 LO1 UP1 LO1 UP1 LO1 UP1 LO1 UP1 LO1 UP1
LO1 UP1 LO1 UP1 LO9 UP1 LO1 UP1 LO1 UP1 LO1 UP1 LO1 UP1 LO1 UP1 LO1 UP1 LO1 UP1 LO1 UP1 LO1 UP1
LO1 UP1 LO1 UP1 LO1 UP1 LO1 UP1 LO1 UP1 LO1 UP1 LO1 UP1 LO1 UP1 LO1 UP1 LO1 UP1 LO1 UP1 LO1 UP1
LO1 UP1 LO1 UP1 LO1 UP1 LO1 UP1 LO1 UP1 LO1 UP1 LO1 UP1 LO1 UP1 LO1 UP1 LO1 UP1 LO1 UP1 LO1 UP1
LO1 UP1 LO1 UP1 LO1 UP1 LO1 UP1 LO1 UP1 LO1 UP1 LO1 UP1 LO1 UP1 LO1 UP1 LO1 UP1 LO1 UP1 LO1 UP1
LO1 UP1 LO1 UP1 LO1 UP1 LO9 UP8 LO6 Other2 UP6 Other2 LO8 UP8 LO8 UP8 LO6 Other2 UP6 Other2 LO8
Other1 UP1 Other1 UP1 Other1 UP1 Other1 UP1 LO8 UP8 LO14 Other2 LO8 UP8 LO8 UP8 LO8 UP8 LO5 Other1
LO2 UP5 Other1 LO1 Other3 LO3 Other1 LO2 UP5 Other3 LO4 Other2 LO2 UP4 Other4 LO8 UP5 Other5 LO3
Other1 LO2 UP5 Other3 SP11 FO1 EX2 FO2 Other3 SC2 Other3 CL8 Other4 AT1 Other3 SE2 FO5 SP1 Other9
CL2 Other1 ST2 Other7 CL2 ST3 Other21 SP1 FO5 Other1 FO10 Other1 LO1 Other11 CL2 LO1 Other13 CL2
Other1 LO13 Other51 EX33 Other17 UP1 Other4 UP1 Other2 LO1 UP3 LO2 UP3 LO1 Other1 UP1 Other3 UP5
Other6 UP1 Other1 UP1 Other1 UP1 Other1 UP4 Other1 LO1 UP4 LO1 LE4 LO1 Other2 LO2 UP2 Other5 UP1
LO4 Other4 LO1 Other17 UP16 LO16 LE3 UP1 LO1 LE4 Other383 CL4 Other29 CL2 Other395 UP26 LO26
Other625 CL6 Other7 CL14 Other79 CL2 Other31 CL10 Other403 CL22 Other63 CL4 Other32 CL2 Other514
UP48 LO48 UP1 LO1 UP3 LO2 UP1 LO1 UP1 LO1 UP1 LO1 UP4 LO1 UP1 LO2 UP1 LO8 UP3 LO1 UP1 LO1 UP1 LO1
UP1 LO1 UP1 LO1 UP1 LO1 UP1 LO1 UP1 LO1 UP1 LO1 UP1 LO1 UP1 LO1 UP1 LO1 UP1 LO1 UP1 LO1 UP1 LO1
UP1 LO1 UP1 LO1 UP1 LO1 UP1 LO1 UP1 LO1 UP1 LO1 UP1 LO1 UP1 LO1 UP1 LO1 UP1 LO1 UP1 LO1 UP1 LO1
UP1 LO1 UP1 LO1 UP1 LO1 UP1 LO1 UP1 LO1 UP1 LO1 UP1 LO1 UP1 LO1 UP1 LO1 UP1 LO1 UP1 LO1 UP1 LO1
UP1 LO1 UP1 LO1 UP1 LO1 UP1 LO1 UP1 LO1 UP1 LO1 UP1 LO1 UP1 LO1 UP1 LO1 UP1 LO1 UP1 LO2 Other6 UP1
LO1 UP1 LO1 EX3 UP1 LO1 Other5 ST3 Other4 LO38 Other1 LO1 Other5 LO1 Other2 LE56 Other7 LE1
Other15 EX1 LE23 Other9 LE7 Other1 LE7 Other1 LE7 Other1 LE7 Other1 LE7 Other1 LE7 Other1 LE7
Other1 LE7 Other1 EX32 CL14 Other14 CL2 Other2 CL10 Other4 ST1 LE1 Other12 ST1 Other5 CL1 Other16
ST2 CL8 Other419 SP1 SC1 ST1 Other2 LE3 CL10 Other2 CL8 Other1 CL3 Other1 LE9 EX6 Other1 LE5
Other2 LE5 Other4 LE86 Other2 EX2 Other2 LE3 Other1 LE90 Other1 LE4 Other5 LE43 Other1 LE94
Other17 LE32 Other48 LE16 Other512 LE6592 Other64 LE22157 Other67 LE46 Other1 ST1 LE269 Other1 ST2
LE16 NU10 LE2 Other20 UP1 LO1 UP1 LO1 UP1 LO1 UP1 LO1 UP1 LO1 UP1 LO1 UP1 LO1 UP1 LO1 UP1 LO1 UP1
LO1 UP1 LO1 UP1 LO1 UP1 LO1 UP1 LO1 UP1 LO1 UP1 LO1 UP1 LO1 UP1 LO1 UP1 LO1 UP1 LO1 UP1 LO1 UP1
LO1 UP1 LO1 LE1 EX4 Other1 EX10 Other1 LE1 UP1 LO1 UP1 LO1 UP1 LO1 UP1 LO1 UP1 LO1 UP1 LO1 UP1 LO1
UP1 LO1 UP1 LO1 UP1 LO1 UP1 LO1 UP1 LO1 UP1 LO1 UP1 LO3 EX2 LE80 EX2 Other1 ST1 Other3 ST1 Other31
LE9 Other2 UP1 LO1 UP1 LO1 UP1 LO1 UP1 LO1 UP1 LO1 UP1 LO1 UP1 LO3 UP1 LO1 UP1 LO1 UP1 LO1 UP1 LO1
UP1 LO1 UP1 LO1 UP1 LO1 UP1 LO1 UP1 LO1 UP1 LO1 UP1 LO1 UP1 LO1 UP1 LO1 UP1 LO1 UP1 LO1 UP1 LO1
UP1 LO1 UP1 LO1 UP1 LO1 UP1 LO1 UP1 LO1 UP1 LO1 UP1 LO1 UP1 LO1 UP1 LO1 UP1 LO1 UP1 LO1 UP1 LO1
UP1 LO1 UP1 LO1 UP1 LO10 UP1 LO1 UP1 LO1 UP2 LO1 UP1 LO1 UP1 LO1 UP1 LO1 UP1 LO1 LE1 Other2 UP1
LO1 UP1 LO1 LE1 UP1 LO1 UP1 LO3 UP1 LO1 UP1 LO1 UP1 LO1 UP1 LO1 UP1 LO1 UP1 LO1 UP1 LO1 UP1 LO1
UP1 LO1 UP1 LO1 UP5 LO1 UP5 LO1 UP1 LO1 UP1 LO1 UP1 LO1 UP1 LO1 UP1 LO1 UP1 LO1 UP1 LO1 UP4 LO1
UP1 LO1 UP2 LO1 Other2 UP1 LO1 Other1 LO1 Other1 LO1 UP1 LO1 UP1 LO1 UP1 LO1 UP1 Other21 LO3 UP1
LO1 LE1 LO3 LE7 EX1 LE3 EX1 LE4 EX1 LE23 EX5 Other4 EX1 Other19 LE52 Other2 ST2 Other8 EX2 LE50
EX18 Other8 ST2 NU10 Other6 EX18 LE6 Other3 LE1 Other1 LE2 EX1 NU10 LE28 EX8 Other1 ST1 LE23 EX13
Other12 LE29 Other3 EX4 LE47 EX14 Other7 ST2 Other5 LE1 NU10 Other6 LE5 EX1 LE10 NU10 LE5 Other1
LE41 EX14 Other9 LE3 EX1 LE8 EX2 Other2 NU10 Other3 ST3 LE23 Other3 LE1 EX3 LE50 EX1 LE1 EX3 LE2
EX2 LE5 EX2 LE1 EX1 LE1 Other24 LE3 Other2 LE11 EX5 ST2 LE3 EX2 Other10 LE6 Other2 LE6 Other2 LE6
Other9 LE7 Other1 LE7 Other1 LO43 Other1 LO14 Other6 LO80 LE35 EX8 ST1 EX2 Other2 NU10 Other6
LE11172 Other12 LE23 Other4 LE49 Other8452 LE366 Other2 LE106 Other38 LO7 Other12 LO5 Other5 LE1
EX1 LE10 Other1 LE13 Other1 LE5 Other1 LE1 Other1 LE2 Other1 LE2 Other1 LE108 Other33 LE363 CL2
Other16 LE64 Other2 LE54 Other40 LE12 Other4 EX16 SC2 ST1 SC2 ST2 CL2 Other7 EX16 Other1 SC2
Other2 CL16 Other2 CL2 Other7 SC2 AT1 Other1 SC2 ST2 SC1 CL6 Other4 SC1 Other12 LE5 Other1 LE135
Other2 FO1 Other1 ST1 Other6 CL2 Other2 SC2 AT1 Other1 NU10 SC2 Other3 ST1 Other1 UP26 CL1 Other1
CL1 Other3 LO26 CL1 Other1 CL1 Other1 CL2 ST1 CL2 SC1 Other1 LE56 EX2 LE31 Other3 LE6 Other2 LE6
Other2 LE6 Other2 LE3 Other28 FO3 Other4 LE12 Other1 LE26 Other1 LE19 Other1 LE2 Other1 LE15
Other2 LE14 Other34 LE123 Other69 LE53 Other136 EX1 Other130 LE29 Other3 LE49 Other15 EX1 Other31
LE32 Other13 LE30 Other5 LE38 EX5 Other5 LE30 Other2 LE36 Other4 LE8 Other1 LE5 Other42 UP40 LO40
LE78 Other2 NU10 Other6 UP36 Other4 LO36 Other4 LE40 Other8 LE52 Other12 UP11 Other1 UP15 Other1
UP7 Other1 UP2 Other1 LO11 Other1 LO15 Other1 LO7 Other1 LO2 Other3 LE52 Other12 LE311 Other9 LE22
Other10 LE8 Other24 LO1 LE2 LO3 Other1 LO42 Other1 LO9 Other69 LE6 Other2 LE1 Other1 LE44 Other1
LE2 Other3 LE1 Other2 LE23 Other10 LE23 Other9 LE31 Other65 LE19 Other1 LE2 Other10 LE22 Other10
LE26 Other70 LE56 Other6 LE2 Other64 LE1 EX3 Other1 EX2 Other5 EX4 LE4 Other1 LE3 Other1 LE29
Other2 EX3 Other4 EX1 Other22 ST2 Other8 LE29 Other3 LE29 Other35 LE8 Other1 LE28 EX2 Other25 LE54
Other10 LE22 Other10 LE19 Other13 LE18 Other110 LE73 Other55 UP51 Other13 LO51 Other13 LE36 EX4
Other8 NU10 Other6 NU10 LE6 UP22 Other3 EX5 Other1 LE1 LO22 Other250 LE42 Other1 EX2 Other3 LE2
Other16 LE3 Other55 EX4 LE29 Other10 LE1 Other8 LE22 EX11 Other4 ST5 Other22 LE18 EX4 ST4 Other38
LE21 Other27 LE23 Other9 EX3 LE53 EX15 ST2 Other29 NU10 EX1 LE2 EX2 LE1 Other9 EX4 LE45 EX11
Other2 NU1 ST4 EX1 Other10 NU1 Other2 LE25 Other7 NU10 Other6 EX3 LE36 EX14 Other1 NU10 Other1 ST3
LE1 EX2 LE1 Other8 LE35 EX1 Other2 LE1 Other9 EX3 LE48 EX14 LE4 ST2 Other2 EX4 ST1 EX2 NU10 LE1
Other1 LE1 Other1 ST2 Other32 LE18 Other1 LE25 EX12 ST2 Other1 ST2 Other1 EX1 LE2 EX1 Other62 LE7
Other1 LE1 Other1 LE4 Other1 LE15 Other1 LE10 ST1 Other6 LE47 EX12 Other5 NU10 Other6 EX4 Other1
LE8 Other2 LE2 Other2 LE22 Other1 LE7 Other1 LE2 Other1 LE5 Other1 EX2 LE1 EX7 Other2 EX2 Other2
EX3 Other2 LE1 Other6 EX1 Other5 LE5 EX2 Other2 EX7 Other3 EX5 Other11 LE10 Other1 LE1 Other2 LE1
Other1 LE38 Other1 LE1 EX9 Other1 EX1 Other2 EX1 Other1 EX4 Other1 EX5 LE1 EX1 LE1 ST2 Other11 EX2
Other29 LE53 EX18 LE4 ST2 Other3 NU10 Other4 EX1 LE3 Other30 LE48 EX20 LE2 Other1 LE1 Other8 NU10
Other166 LE47 EX7 Other2 EX9 Other1 ST2 Other5 ST15 LE4 EX2 Other34 LE48 EX17 ST2 Other1 LE1
Other11 NU10 Other38 LE43 EX13 LE1 Other7 NU10 Other6 NU20 Other28 LE27 Other2 EX15 Other4 NU10
Other2 ST3 Other1 LE7 Other185 LE44 EX15 Other101 UP32 LO32 NU10 Other21 LE8 Other2 LE1 Other2 LE8
Other1 LE2 Other1 LE24 EX6 Other1 EX2 Other2 EX4 LE1 EX1 LE1 EX2 ST1 Other1 ST1 Other9 NU10
Other70 LE8 Other2 LE39 EX7 Other2 EX7 LE1 Other1 LE1 EX1 Other27 LE1 EX10 LE40 EX7 LE1 EX4 Other3
ST2 Other3 EX1 Other8 LE1 EX11 LE46 EX16 Other1 ST2 LE1 Other18 LE73 Other199 LE33 Other15 NU10
Other6 LE9 Other1 LE37 EX8 Other1 EX8 LE1 ST2 Other13 NU10 Other24 LE30 Other2 EX22 Other1 EX14
Other73 LE7 Other1 LE2 Other1 LE38 EX6 Other3 EX1 Other1 EX2 Other1 EX7 LE1 EX1 Other8 NU10 Other6
LE6 Other1 LE2 Other1 LE32 EX5 Other1 EX2 Other1 EX5 LE1 Other7 NU10 Other310 LE19 EX4 ST2 Other7
EX2 LE1 EX1 LE13 Other1 LE34 EX7 Other3 EX5 ST2 Other11 NU10 EX1 Other85 LE1 Other79 LE922
Other102 LE111 Other17 LE196 Other2636 LE97 Other15 LE1072 FO16 EX1 LE6 EX15 Other10 LE3995 Other5
LE583 Other6841 LE30 EX18 NU10 Other1734 LE569 Other7 LE31 Other1 NU10 Other4 ST2 LE79 Other1 NU10
Other6 LE30 Other2 EX5 ST1 Other10 LE48 EX7 ST2 Other7 LE4 ST1 Other11 NU10 Other9 LE21 Other5
LE19 Other432 LE45 Other1 ST2 NU10 Other198 UP32 LO32 Other24 ST1 Other103 LE75 Other4 EX1 LE1
EX55 Other7 EX4 LE13 Other64 LE2 Other1 LE1 EX1 Other11 EX2 Other14 LE6136 Other8 LE1238 Other41
LE10 Other8935 LE4 Other1 LE7 Other1 LE2 Other1 LE291 Other15 LE1 Other29 LE3 Other2 LE1 Other14
LE4 Other8 LE396 Other2308 LE107 Other5 LE13 Other3 LE9 Other7 LE10 Other3 EX2 ST1 FO4 Other4172
NU10 Other518 EX46 Other2 EX23 Other542 EX5 Other3 EX6 FO8 EX8 Other2 EX7 Other30 EX4 Other148 EX3
Other443 UP26 LO26 UP26 LO7 Other1 LO18 UP26 LO26 UP1 Other1 UP2 Other2 UP1 Other2 UP2 Other2 UP4
Other1 UP8 LO4 Other1 LO1 Other1 LO7 Other1 LO11 UP26 LO26 UP2 Other1 UP4 Other2 UP8 Other1 UP7
Other1 LO26 UP2 Other1 UP4 Other1 UP5 Other1 UP1 Other3 UP7 Other1 LO26 UP26 LO26 UP26 LO26 UP26
LO26 UP26 LO26 UP26 LO26 UP26 LO28 Other2 UP25 Other1 LO25 Other1 LO6 UP25 Other1 LO25 Other1 LO6
UP25 Other1 LO25 Other1 LO6 UP25 Other1 LO25 Other1 LO6 UP25 Other1 LO25 Other1 LO6 UP1 LO1 Other2
NU50 Other512 EX55 Other4 EX50 Other8 EX1 Other14 EX1 Other3 ST1 Other18 EX5 Other1 EX15 Other1104
LO10 LE1 LO20 Other6 LO6 Other213 EX7 Other1 EX17 Other2 EX7 Other1 EX2 Other1 EX5 Other5 LO62
Other33 EX1 Other112 LE45 Other3 EX7 LE7 Other2 NU10 Other4 LE1 Other321 LE30 EX1 Other17 LE44 EX4
NU10 Other470 LE28 EX4 NU10 Other214 LE30 EX2 LE1 NU10 Other485 LE7 Other1 LE4 Other1 LE2 Other1
LE15 Other1 LE197 Other11 EX7 Other41 UP34 LO34 EX7 LE1 Other4 NU10 Other1190 LE4 Other1 LE27
Other1 LE2 Other1 LE1 Other2 LE1 Other1 LE10 Other1 LE4 Other1 LE1 Other1 LE1 Other6 LE1 Other4
LE1 Other1 LE1 Other1 LE1 Other1 LE3 Other1 LE2 Other1 LE1 Other2 LE1 Other1 LE1 Other1 LE1 Other1
LE1 Other1 LE1 Other1 LE2 Other1 LE1 Other2 LE4 Other1 LE7 Other1 LE4 Other1 LE4 Other1 LE1 Other1
LE10 Other1 LE17 Other5 LE3 Other1 LE5 Other1 LE17 Other628 UP26 Other6 UP26 Other6 UP26 Other1260
CL3 Other1399 NU10 Other1030 LE42720 Other32 LE4154 Other6 LE222 Other2 LE5762 Other14 LE7473
Other15 LE622 Other2466 LE542 Other1506 LE4939 Other5 LE4192 Other711761 FO1 Other30 EX96 Other128
EX240 Other196112"

/-- The characters of a class, by one of the names that a list gives it. -/
def breakClass? (names : List (String × List String)) (table name : String) : Option CharSet :=
  (names.find? fun (_, aliases) => aliases.contains name).map
    fun (label, _) => classSet (classRuns table) (· = label)

def graphemeBreak? : String → Option CharSet := breakClass? graphemeBreakNames graphemeBreakTable

def wordBreak? : String → Option CharSet := breakClass? wordBreakNames wordBreakTable

def sentenceBreak? : String → Option CharSet := breakClass? sentenceBreakNames sentenceBreakTable

end Hyperslab.Unicode
