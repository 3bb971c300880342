/-!
# Composed characters

Letters with marks (Unicode 14).  A letter and a mark may be written as one character, and marks behind a letter have an
order: those of a lower class come first.
-/

namespace Stencil.Text.Normal

/-- Code points of characters that a letter and a mark make, each followed by those of the two. -/
def composed : List String := [
  "C0 41 300;C1 41 301;C2 41 302;C3 41 303;C4 41 308;C5 41 30A;C7 43 327;C8 45 300;C9 45 301;CA 45 302;CB 45 308",
  "CC 49 300;CD 49 301;CE 49 302;CF 49 308;D1 4E 303;D2 4F 300;D3 4F 301;D4 4F 302;D5 4F 303;D6 4F 308;D9 55 300",
  "DA 55 301;DB 55 302;DC 55 308;DD 59 301;E0 61 300;E1 61 301;E2 61 302;E3 61 303;E4 61 308;E5 61 30A;E7 63 327",
  "E8 65 300;E9 65 301;EA 65 302;EB 65 308;EC 69 300;ED 69 301;EE 69 302;EF 69 308;F1 6E 303;F2 6F 300;F3 6F 301",
  "F4 6F 302;F5 6F 303;F6 6F 308;F9 75 300;FA 75 301;FB 75 302;FC 75 308;FD 79 301;FF 79 308;100 41 304;101 61 304",
  "102 41 306;103 61 306;104 41 328;105 61 328;106 43 301;107 63 301;108 43 302;109 63 302;10A 43 307;10B 63 307",
  "10C 43 30C;10D 63 30C;10E 44 30C;10F 64 30C;112 45 304;113 65 304;114 45 306;115 65 306;116 45 307;117 65 307",
  "118 45 328;119 65 328;11A 45 30C;11B 65 30C;11C 47 302;11D 67 302;11E 47 306;11F 67 306;120 47 307;121 67 307",
  "122 47 327;123 67 327;124 48 302;125 68 302;128 49 303;129 69 303;12A 49 304;12B 69 304;12C 49 306;12D 69 306",
  "12E 49 328;12F 69 328;130 49 307;134 4A 302;135 6A 302;136 4B 327;137 6B 327;139 4C 301;13A 6C 301;13B 4C 327",
  "13C 6C 327;13D 4C 30C;13E 6C 30C;143 4E 301;144 6E 301;145 4E 327;146 6E 327;147 4E 30C;148 6E 30C;14C 4F 304",
  "14D 6F 304;14E 4F 306;14F 6F 306;150 4F 30B;151 6F 30B;154 52 301;155 72 301;156 52 327;157 72 327;158 52 30C",
  "159 72 30C;15A 53 301;15B 73 301;15C 53 302;15D 73 302;15E 53 327;15F 73 327;160 53 30C;161 73 30C;162 54 327",
  "163 74 327;164 54 30C;165 74 30C;168 55 303;169 75 303;16A 55 304;16B 75 304;16C 55 306;16D 75 306;16E 55 30A",
  "16F 75 30A;170 55 30B;171 75 30B;172 55 328;173 75 328;174 57 302;175 77 302;176 59 302;177 79 302;178 59 308",
  "179 5A 301;17A 7A 301;17B 5A 307;17C 7A 307;17D 5A 30C;17E 7A 30C;1A0 4F 31B;1A1 6F 31B;1AF 55 31B;1B0 75 31B",
  "1CD 41 30C;1CE 61 30C;1CF 49 30C;1D0 69 30C;1D1 4F 30C;1D2 6F 30C;1D3 55 30C;1D4 75 30C;1D5 DC 304;1D6 FC 304",
  "1D7 DC 301;1D8 FC 301;1D9 DC 30C;1DA FC 30C;1DB DC 300;1DC FC 300;1DE C4 304;1DF E4 304;1E0 226 304;1E1 227 304",
  "1E2 C6 304;1E3 E6 304;1E6 47 30C;1E7 67 30C;1E8 4B 30C;1E9 6B 30C;1EA 4F 328;1EB 6F 328;1EC 1EA 304;1ED 1EB 304",
  "1EE 1B7 30C;1EF 292 30C;1F0 6A 30C;1F4 47 301;1F5 67 301;1F8 4E 300;1F9 6E 300;1FA C5 301;1FB E5 301;1FC C6 301",
  "1FD E6 301;1FE D8 301;1FF F8 301;200 41 30F;201 61 30F;202 41 311;203 61 311;204 45 30F;205 65 30F;206 45 311",
  "207 65 311;208 49 30F;209 69 30F;20A 49 311;20B 69 311;20C 4F 30F;20D 6F 30F;20E 4F 311;20F 6F 311;210 52 30F",
  "211 72 30F;212 52 311;213 72 311;214 55 30F;215 75 30F;216 55 311;217 75 311;218 53 326;219 73 326;21A 54 326",
  "21B 74 326;21E 48 30C;21F 68 30C;226 41 307;227 61 307;228 45 327;229 65 327;22A D6 304;22B F6 304;22C D5 304",
  "22D F5 304;22E 4F 307;22F 6F 307;230 22E 304;231 22F 304;232 59 304;233 79 304;386 391 301;388 395 301",
  "389 397 301;38A 399 301;38C 39F 301;38E 3A5 301;38F 3A9 301;390 3CA 301;3AA 399 308;3AB 3A5 308;3AC 3B1 301",
  "3AD 3B5 301;3AE 3B7 301;3AF 3B9 301;3B0 3CB 301;3CA 3B9 308;3CB 3C5 308;3CC 3BF 301;3CD 3C5 301;3CE 3C9 301",
  "3D3 3D2 301;3D4 3D2 308;400 415 300;401 415 308;403 413 301;407 406 308;40C 41A 301;40D 418 300;40E 423 306",
  "419 418 306;439 438 306;450 435 300;451 435 308;453 433 301;457 456 308;45C 43A 301;45D 438 300;45E 443 306",
  "476 474 30F;477 475 30F;4C1 416 306;4C2 436 306;4D0 410 306;4D1 430 306;4D2 410 308;4D3 430 308;4D6 415 306",
  "4D7 435 306;4DA 4D8 308;4DB 4D9 308;4DC 416 308;4DD 436 308;4DE 417 308;4DF 437 308;4E2 418 304;4E3 438 304",
  "4E4 418 308;4E5 438 308;4E6 41E 308;4E7 43E 308;4EA 4E8 308;4EB 4E9 308;4EC 42D 308;4ED 44D 308;4EE 423 304",
  "4EF 443 304;4F0 423 308;4F1 443 308;4F2 423 30B;4F3 443 30B;4F4 427 308;4F5 447 308;4F8 42B 308;4F9 44B 308",
  "622 627 653;623 627 654;624 648 654;625 627 655;626 64A 654;6C0 6D5 654;6C2 6C1 654;6D3 6D2 654;929 928 93C",
  "931 930 93C;934 933 93C;9CB 9C7 9BE;9CC 9C7 9D7;B48 B47 B56;B4B B47 B3E;B4C B47 B57;B94 B92 BD7;BCA BC6 BBE",
  "BCB BC7 BBE;BCC BC6 BD7;C48 C46 C56;CC0 CBF CD5;CC7 CC6 CD5;CC8 CC6 CD6;CCA CC6 CC2;CCB CCA CD5;D4A D46 D3E",
  "D4B D47 D3E;D4C D46 D57;DDA DD9 DCA;DDC DD9 DCF;DDD DDC DCA;DDE DD9 DDF;1026 1025 102E;1B06 1B05 1B35",
  "1B08 1B07 1B35;1B0A 1B09 1B35;1B0C 1B0B 1B35;1B0E 1B0D 1B35;1B12 1B11 1B35;1B3B 1B3A 1B35;1B3D 1B3C 1B35",
  "1B40 1B3E 1B35;1B41 1B3F 1B35;1B43 1B42 1B35;1E00 41 325;1E01 61 325;1E02 42 307;1E03 62 307;1E04 42 323",
  "1E05 62 323;1E06 42 331;1E07 62 331;1E08 C7 301;1E09 E7 301;1E0A 44 307;1E0B 64 307;1E0C 44 323;1E0D 64 323",
  "1E0E 44 331;1E0F 64 331;1E10 44 327;1E11 64 327;1E12 44 32D;1E13 64 32D;1E14 112 300;1E15 113 300;1E16 112 301",
  "1E17 113 301;1E18 45 32D;1E19 65 32D;1E1A 45 330;1E1B 65 330;1E1C 228 306;1E1D 229 306;1E1E 46 307;1E1F 66 307",
  "1E20 47 304;1E21 67 304;1E22 48 307;1E23 68 307;1E24 48 323;1E25 68 323;1E26 48 308;1E27 68 308;1E28 48 327",
  "1E29 68 327;1E2A 48 32E;1E2B 68 32E;1E2C 49 330;1E2D 69 330;1E2E CF 301;1E2F EF 301;1E30 4B 301;1E31 6B 301",
  "1E32 4B 323;1E33 6B 323;1E34 4B 331;1E35 6B 331;1E36 4C 323;1E37 6C 323;1E38 1E36 304;1E39 1E37 304;1E3A 4C 331",
  "1E3B 6C 331;1E3C 4C 32D;1E3D 6C 32D;1E3E 4D 301;1E3F 6D 301;1E40 4D 307;1E41 6D 307;1E42 4D 323;1E43 6D 323",
  "1E44 4E 307;1E45 6E 307;1E46 4E 323;1E47 6E 323;1E48 4E 331;1E49 6E 331;1E4A 4E 32D;1E4B 6E 32D;1E4C D5 301",
  "1E4D F5 301;1E4E D5 308;1E4F F5 308;1E50 14C 300;1E51 14D 300;1E52 14C 301;1E53 14D 301;1E54 50 301;1E55 70 301",
  "1E56 50 307;1E57 70 307;1E58 52 307;1E59 72 307;1E5A 52 323;1E5B 72 323;1E5C 1E5A 304;1E5D 1E5B 304;1E5E 52 331",
  "1E5F 72 331;1E60 53 307;1E61 73 307;1E62 53 323;1E63 73 323;1E64 15A 307;1E65 15B 307;1E66 160 307;1E67 161 307",
  "1E68 1E62 307;1E69 1E63 307;1E6A 54 307;1E6B 74 307;1E6C 54 323;1E6D 74 323;1E6E 54 331;1E6F 74 331;1E70 54 32D",
  "1E71 74 32D;1E72 55 324;1E73 75 324;1E74 55 330;1E75 75 330;1E76 55 32D;1E77 75 32D;1E78 168 301;1E79 169 301",
  "1E7A 16A 308;1E7B 16B 308;1E7C 56 303;1E7D 76 303;1E7E 56 323;1E7F 76 323;1E80 57 300;1E81 77 300;1E82 57 301",
  "1E83 77 301;1E84 57 308;1E85 77 308;1E86 57 307;1E87 77 307;1E88 57 323;1E89 77 323;1E8A 58 307;1E8B 78 307",
  "1E8C 58 308;1E8D 78 308;1E8E 59 307;1E8F 79 307;1E90 5A 302;1E91 7A 302;1E92 5A 323;1E93 7A 323;1E94 5A 331",
  "1E95 7A 331;1E96 68 331;1E97 74 308;1E98 77 30A;1E99 79 30A;1E9B 17F 307;1EA0 41 323;1EA1 61 323;1EA2 41 309",
  "1EA3 61 309;1EA4 C2 301;1EA5 E2 301;1EA6 C2 300;1EA7 E2 300;1EA8 C2 309;1EA9 E2 309;1EAA C2 303;1EAB E2 303",
  "1EAC 1EA0 302;1EAD 1EA1 302;1EAE 102 301;1EAF 103 301;1EB0 102 300;1EB1 103 300;1EB2 102 309;1EB3 103 309",
  "1EB4 102 303;1EB5 103 303;1EB6 1EA0 306;1EB7 1EA1 306;1EB8 45 323;1EB9 65 323;1EBA 45 309;1EBB 65 309",
  "1EBC 45 303;1EBD 65 303;1EBE CA 301;1EBF EA 301;1EC0 CA 300;1EC1 EA 300;1EC2 CA 309;1EC3 EA 309;1EC4 CA 303",
  "1EC5 EA 303;1EC6 1EB8 302;1EC7 1EB9 302;1EC8 49 309;1EC9 69 309;1ECA 49 323;1ECB 69 323;1ECC 4F 323;1ECD 6F 323",
  "1ECE 4F 309;1ECF 6F 309;1ED0 D4 301;1ED1 F4 301;1ED2 D4 300;1ED3 F4 300;1ED4 D4 309;1ED5 F4 309;1ED6 D4 303",
  "1ED7 F4 303;1ED8 1ECC 302;1ED9 1ECD 302;1EDA 1A0 301;1EDB 1A1 301;1EDC 1A0 300;1EDD 1A1 300;1EDE 1A0 309",
  "1EDF 1A1 309;1EE0 1A0 303;1EE1 1A1 303;1EE2 1A0 323;1EE3 1A1 323;1EE4 55 323;1EE5 75 323;1EE6 55 309;1EE7 75 309",
  "1EE8 1AF 301;1EE9 1B0 301;1EEA 1AF 300;1EEB 1B0 300;1EEC 1AF 309;1EED 1B0 309;1EEE 1AF 303;1EEF 1B0 303",
  "1EF0 1AF 323;1EF1 1B0 323;1EF2 59 300;1EF3 79 300;1EF4 59 323;1EF5 79 323;1EF6 59 309;1EF7 79 309;1EF8 59 303",
  "1EF9 79 303;1F00 3B1 313;1F01 3B1 314;1F02 1F00 300;1F03 1F01 300;1F04 1F00 301;1F05 1F01 301;1F06 1F00 342",
  "1F07 1F01 342;1F08 391 313;1F09 391 314;1F0A 1F08 300;1F0B 1F09 300;1F0C 1F08 301;1F0D 1F09 301;1F0E 1F08 342",
  "1F0F 1F09 342;1F10 3B5 313;1F11 3B5 314;1F12 1F10 300;1F13 1F11 300;1F14 1F10 301;1F15 1F11 301;1F18 395 313",
  "1F19 395 314;1F1A 1F18 300;1F1B 1F19 300;1F1C 1F18 301;1F1D 1F19 301;1F20 3B7 313;1F21 3B7 314;1F22 1F20 300",
  "1F23 1F21 300;1F24 1F20 301;1F25 1F21 301;1F26 1F20 342;1F27 1F21 342;1F28 397 313;1F29 397 314;1F2A 1F28 300",
  "1F2B 1F29 300;1F2C 1F28 301;1F2D 1F29 301;1F2E 1F28 342;1F2F 1F29 342;1F30 3B9 313;1F31 3B9 314;1F32 1F30 300",
  "1F33 1F31 300;1F34 1F30 301;1F35 1F31 301;1F36 1F30 342;1F37 1F31 342;1F38 399 313;1F39 399 314;1F3A 1F38 300",
  "1F3B 1F39 300;1F3C 1F38 301;1F3D 1F39 301;1F3E 1F38 342;1F3F 1F39 342;1F40 3BF 313;1F41 3BF 314;1F42 1F40 300",
  "1F43 1F41 300;1F44 1F40 301;1F45 1F41 301;1F48 39F 313;1F49 39F 314;1F4A 1F48 300;1F4B 1F49 300;1F4C 1F48 301",
  "1F4D 1F49 301;1F50 3C5 313;1F51 3C5 314;1F52 1F50 300;1F53 1F51 300;1F54 1F50 301;1F55 1F51 301;1F56 1F50 342",
  "1F57 1F51 342;1F59 3A5 314;1F5B 1F59 300;1F5D 1F59 301;1F5F 1F59 342;1F60 3C9 313;1F61 3C9 314;1F62 1F60 300",
  "1F63 1F61 300;1F64 1F60 301;1F65 1F61 301;1F66 1F60 342;1F67 1F61 342;1F68 3A9 313;1F69 3A9 314;1F6A 1F68 300",
  "1F6B 1F69 300;1F6C 1F68 301;1F6D 1F69 301;1F6E 1F68 342;1F6F 1F69 342;1F70 3B1 300;1F72 3B5 300;1F74 3B7 300",
  "1F76 3B9 300;1F78 3BF 300;1F7A 3C5 300;1F7C 3C9 300;1F80 1F00 345;1F81 1F01 345;1F82 1F02 345;1F83 1F03 345",
  "1F84 1F04 345;1F85 1F05 345;1F86 1F06 345;1F87 1F07 345;1F88 1F08 345;1F89 1F09 345;1F8A 1F0A 345;1F8B 1F0B 345",
  "1F8C 1F0C 345;1F8D 1F0D 345;1F8E 1F0E 345;1F8F 1F0F 345;1F90 1F20 345;1F91 1F21 345;1F92 1F22 345;1F93 1F23 345",
  "1F94 1F24 345;1F95 1F25 345;1F96 1F26 345;1F97 1F27 345;1F98 1F28 345;1F99 1F29 345;1F9A 1F2A 345;1F9B 1F2B 345",
  "1F9C 1F2C 345;1F9D 1F2D 345;1F9E 1F2E 345;1F9F 1F2F 345;1FA0 1F60 345;1FA1 1F61 345;1FA2 1F62 345;1FA3 1F63 345",
  "1FA4 1F64 345;1FA5 1F65 345;1FA6 1F66 345;1FA7 1F67 345;1FA8 1F68 345;1FA9 1F69 345;1FAA 1F6A 345;1FAB 1F6B 345",
  "1FAC 1F6C 345;1FAD 1F6D 345;1FAE 1F6E 345;1FAF 1F6F 345;1FB0 3B1 306;1FB1 3B1 304;1FB2 1F70 345;1FB3 3B1 345",
  "1FB4 3AC 345;1FB6 3B1 342;1FB7 1FB6 345;1FB8 391 306;1FB9 391 304;1FBA 391 300;1FBC 391 345;1FC2 1F74 345",
  "1FC3 3B7 345;1FC4 3AE 345;1FC6 3B7 342;1FC7 1FC6 345;1FC8 395 300;1FCA 397 300;1FCC 397 345;1FD0 3B9 306",
  "1FD1 3B9 304;1FD2 3CA 300;1FD6 3B9 342;1FD7 3CA 342;1FD8 399 306;1FD9 399 304;1FDA 399 300;1FE0 3C5 306",
  "1FE1 3C5 304;1FE2 3CB 300;1FE4 3C1 313;1FE5 3C1 314;1FE6 3C5 342;1FE7 3CB 342;1FE8 3A5 306;1FE9 3A5 304",
  "1FEA 3A5 300;1FEC 3A1 314;1FF2 1F7C 345;1FF3 3C9 345;1FF4 3CE 345;1FF6 3C9 342;1FF7 1FF6 345;1FF8 39F 300",
  "1FFA 3A9 300;1FFC 3A9 345;304C 304B 3099;304E 304D 3099;3050 304F 3099;3052 3051 3099;3054 3053 3099",
  "3056 3055 3099;3058 3057 3099;305A 3059 3099;305C 305B 3099;305E 305D 3099;3060 305F 3099;3062 3061 3099",
  "3065 3064 3099;3067 3066 3099;3069 3068 3099;3070 306F 3099;3071 306F 309A;3073 3072 3099;3074 3072 309A",
  "3076 3075 3099;3077 3075 309A;3079 3078 3099;307A 3078 309A;307C 307B 3099;307D 307B 309A;3094 3046 3099",
  "309E 309D 3099;30AC 30AB 3099;30AE 30AD 3099;30B0 30AF 3099;30B2 30B1 3099;30B4 30B3 3099;30B6 30B5 3099",
  "30B8 30B7 3099;30BA 30B9 3099;30BC 30BB 3099;30BE 30BD 3099;30C0 30BF 3099;30C2 30C1 3099;30C5 30C4 3099",
  "30C7 30C6 3099;30C9 30C8 3099;30D0 30CF 3099;30D1 30CF 309A;30D3 30D2 3099;30D4 30D2 309A;30D6 30D5 3099",
  "30D7 30D5 309A;30D9 30D8 3099;30DA 30D8 309A;30DC 30DB 3099;30DD 30DB 309A;30F4 30A6 3099;30F7 30EF 3099",
  "30F8 30F0 3099;30F9 30F1 3099;30FA 30F2 3099;30FE 30FD 3099;1109A 11099 110BA;1109C 1109B 110BA",
  "110AB 110A5 110BA;1112E 11131 11127;1112F 11132 11127;1134B 11347 1133E;1134C 11347 11357;114BB 114B9 114BA",
  "114BC 114B9 114B0;114BE 114B9 114BD;115BA 115B8 115AF;115BB 115B9 115AF;11938 11935 11930"]

/-- First and last code points of marks, and their class. -/
def marks : List String := [
  "300 314 230;315 315 232;316 319 220;31A 31A 232;31B 31B 216;31C 320 220;321 322 202;323 326 220;327 328 202",
  "329 333 220;334 338 1;339 33C 220;33D 344 230;345 345 240;346 346 230;347 349 220;34A 34C 230;34D 34E 220",
  "350 352 230;353 356 220;357 357 230;358 358 232;359 35A 220;35B 35B 230;35C 35C 233;35D 35E 234;35F 35F 233",
  "360 361 234;362 362 233;363 36F 230;483 487 230;591 591 220;592 595 230;596 596 220;597 599 230;59A 59A 222",
  "59B 59B 220;59C 5A1 230;5A2 5A7 220;5A8 5A9 230;5AA 5AA 220;5AB 5AC 230;5AD 5AD 222;5AE 5AE 228;5AF 5AF 230",
  "5B0 5B0 10;5B1 5B1 11;5B2 5B2 12;5B3 5B3 13;5B4 5B4 14;5B5 5B5 15;5B6 5B6 16;5B7 5B7 17;5B8 5B8 18;5B9 5BA 19",
  "5BB 5BB 20;5BC 5BC 21;5BD 5BD 22;5BF 5BF 23;5C1 5C1 24;5C2 5C2 25;5C4 5C4 230;5C5 5C5 220;5C7 5C7 18;610 617 230",
  "618 618 30;619 619 31;61A 61A 32;64B 64B 27;64C 64C 28;64D 64D 29;64E 64E 30;64F 64F 31;650 650 32;651 651 33",
  "652 652 34;653 654 230;655 656 220;657 65B 230;65C 65C 220;65D 65E 230;65F 65F 220;670 670 35;6D6 6DC 230",
  "6DF 6E2 230;6E3 6E3 220;6E4 6E4 230;6E7 6E8 230;6EA 6EA 220;6EB 6EC 230;6ED 6ED 220;711 711 36;730 730 230",
  "731 731 220;732 733 230;734 734 220;735 736 230;737 739 220;73A 73A 230;73B 73C 220;73D 73D 230;73E 73E 220",
  "73F 741 230;742 742 220;743 743 230;744 744 220;745 745 230;746 746 220;747 747 230;748 748 220;749 74A 230",
  "7EB 7F1 230;7F2 7F2 220;7F3 7F3 230;7FD 7FD 220;816 819 230;81B 823 230;825 827 230;829 82D 230;859 85B 220",
  "898 898 230;899 89B 220;89C 89F 230;8CA 8CE 230;8CF 8D3 220;8D4 8E1 230;8E3 8E3 220;8E4 8E5 230;8E6 8E6 220",
  "8E7 8E8 230;8E9 8E9 220;8EA 8EC 230;8ED 8EF 220;8F0 8F0 27;8F1 8F1 28;8F2 8F2 29;8F3 8F5 230;8F6 8F6 220",
  "8F7 8F8 230;8F9 8FA 220;8FB 8FF 230;93C 93C 7;94D 94D 9;951 951 230;952 952 220;953 954 230;9BC 9BC 7;9CD 9CD 9",
  "9FE 9FE 230;A3C A3C 7;A4D A4D 9;ABC ABC 7;ACD ACD 9;B3C B3C 7;B4D B4D 9;BCD BCD 9;C3C C3C 7;C4D C4D 9;C55 C55 84",
  "C56 C56 91;CBC CBC 7;CCD CCD 9;D3B D3C 9;D4D D4D 9;DCA DCA 9;E38 E39 103;E3A E3A 9;E48 E4B 107;EB8 EB9 118",
  "EBA EBA 9;EC8 ECB 122;F18 F19 220;F35 F35 220;F37 F37 220;F39 F39 216;F71 F71 129;F72 F72 130;F74 F74 132",
  "F7A F7D 130;F80 F80 130;F82 F83 230;F84 F84 9;F86 F87 230;FC6 FC6 220;1037 1037 7;1039 103A 9;108D 108D 220",
  "135D 135F 230;1714 1715 9;1734 1734 9;17D2 17D2 9;17DD 17DD 230;18A9 18A9 228;1939 1939 222;193A 193A 230",
  "193B 193B 220;1A17 1A17 230;1A18 1A18 220;1A60 1A60 9;1A75 1A7C 230;1A7F 1A7F 220;1AB0 1AB4 230;1AB5 1ABA 220",
  "1ABB 1ABC 230;1ABD 1ABD 220;1ABF 1AC0 220;1AC1 1AC2 230;1AC3 1AC4 220;1AC5 1AC9 230;1ACA 1ACA 220;1ACB 1ACE 230",
  "1B34 1B34 7;1B44 1B44 9;1B6B 1B6B 230;1B6C 1B6C 220;1B6D 1B73 230;1BAA 1BAB 9;1BE6 1BE6 7;1BF2 1BF3 9",
  "1C37 1C37 7;1CD0 1CD2 230;1CD4 1CD4 1;1CD5 1CD9 220;1CDA 1CDB 230;1CDC 1CDF 220;1CE0 1CE0 230;1CE2 1CE8 1",
  "1CED 1CED 220;1CF4 1CF4 230;1CF8 1CF9 230;1DC0 1DC1 230;1DC2 1DC2 220;1DC3 1DC9 230;1DCA 1DCA 220;1DCB 1DCC 230",
  "1DCD 1DCD 234;1DCE 1DCE 214;1DCF 1DCF 220;1DD0 1DD0 202;1DD1 1DF5 230;1DF6 1DF6 232;1DF7 1DF8 228;1DF9 1DF9 220",
  "1DFA 1DFA 218;1DFB 1DFB 230;1DFC 1DFC 233;1DFD 1DFD 220;1DFE 1DFE 230;1DFF 1DFF 220;20D0 20D1 230;20D2 20D3 1",
  "20D4 20D7 230;20D8 20DA 1;20DB 20DC 230;20E1 20E1 230;20E5 20E6 1;20E7 20E7 230;20E8 20E8 220;20E9 20E9 230",
  "20EA 20EB 1;20EC 20EF 220;20F0 20F0 230;2CEF 2CF1 230;2D7F 2D7F 9;2DE0 2DFF 230;302A 302A 218;302B 302B 228",
  "302C 302C 232;302D 302D 222;302E 302F 224;3099 309A 8;A66F A66F 230;A674 A67D 230;A69E A69F 230;A6F0 A6F1 230",
  "A806 A806 9;A82C A82C 9;A8C4 A8C4 9;A8E0 A8F1 230;A92B A92D 220;A953 A953 9;A9B3 A9B3 7;A9C0 A9C0 9",
  "AAB0 AAB0 230;AAB2 AAB3 230;AAB4 AAB4 220;AAB7 AAB8 230;AABE AABF 230;AAC1 AAC1 230;AAF6 AAF6 9;ABED ABED 9",
  "FB1E FB1E 26;FE20 FE26 230;FE27 FE2D 220;FE2E FE2F 230;101FD 101FD 220;102E0 102E0 220;10376 1037A 230",
  "10A0D 10A0D 220;10A0F 10A0F 230;10A38 10A38 230;10A39 10A39 1;10A3A 10A3A 220;10A3F 10A3F 9;10AE5 10AE5 230",
  "10AE6 10AE6 220;10D24 10D27 230;10EAB 10EAC 230;10F46 10F47 220;10F48 10F4A 230;10F4B 10F4B 220;10F4C 10F4C 230",
  "10F4D 10F50 220;10F82 10F82 230;10F83 10F83 220;10F84 10F84 230;10F85 10F85 220;11046 11046 9;11070 11070 9",
  "1107F 1107F 9;110B9 110B9 9;110BA 110BA 7;11100 11102 230;11133 11134 9;11173 11173 7;111C0 111C0 9",
  "111CA 111CA 7;11235 11235 9;11236 11236 7;112E9 112E9 7;112EA 112EA 9;1133B 1133C 7;1134D 1134D 9",
  "11366 1136C 230;11370 11374 230;11442 11442 9;11446 11446 7;1145E 1145E 230;114C2 114C2 9;114C3 114C3 7",
  "115BF 115BF 9;115C0 115C0 7;1163F 1163F 9;116B6 116B6 9;116B7 116B7 7;1172B 1172B 9;11839 11839 9;1183A 1183A 7",
  "1193D 1193E 9;11943 11943 7;119E0 119E0 9;11A34 11A34 9;11A47 11A47 9;11A99 11A99 9;11C3F 11C3F 9;11D42 11D42 7",
  "11D44 11D45 9;11D97 11D97 9;16AF0 16AF4 1;16B30 16B36 230;16FF0 16FF1 6;1BC9E 1BC9E 1;1D165 1D166 216",
  "1D167 1D169 1;1D16D 1D16D 226;1D16E 1D172 216;1D17B 1D182 220;1D185 1D189 230;1D18A 1D18B 220;1D1AA 1D1AD 230",
  "1D242 1D244 230;1E000 1E006 230;1E008 1E018 230;1E01B 1E021 230;1E023 1E024 230;1E026 1E02A 230;1E130 1E136 230",
  "1E2AE 1E2AE 230;1E2EC 1E2EF 230;1E8D0 1E8D6 220;1E944 1E949 230;1E94A 1E94A 7"]

end Stencil.Text.Normal
