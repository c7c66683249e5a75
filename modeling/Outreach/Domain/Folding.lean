import Outreach.Text.Composition

/-!
Folding of domain names: letters lose their case, characters that are variants of others become
those, and the whole is composed. Names that are meant to be the same become equal.
-/

namespace Outreach.Domain

open Text (listed isWithin)

/-- Where the characters begin and end that no domain name may hold. -/
def barredTable : List String := [
  "80 a0 378 37a 380 384 38b 38c 38d 38e 3a2 3a3 530 531 557 559 58b 58d 590 591 5c8 5d0 5eb 5ef",
  "5f5 606 61c 61d 6dd 6de 70e 710 74b 74d 7b2 7c0 7fb 7fd 82e 830 83f 840 85c 85e 85f 860 86b",
  "870 890 897 8e2 8e3 984 985 98d 98f 991 993 9a9 9aa 9b1 9b2 9b3 9b6 9ba 9bc 9c5 9c7 9c9 9cb",
  "9cf 9d7 9d8 9dc 9de 9df 9e4 9e6 9ff a01 a04 a05 a0b a0f a11 a13 a29 a2a a31 a32 a34 a35 a37",
  "a38 a3a a3c a3d a3e a43 a47 a49 a4b a4e a51 a52 a59 a5d a5e a5f a66 a77 a81 a84 a85 a8e a8f",
  "a92 a93 aa9 aaa ab1 ab2 ab4 ab5 aba abc ac6 ac7 aca acb ace ad0 ad1 ae0 ae4 ae6 af2 af9 b00",
  "b01 b04 b05 b0d b0f b11 b13 b29 b2a b31 b32 b34 b35 b3a b3c b45 b47 b49 b4b b4e b55 b58 b5c",
  "b5e b5f b64 b66 b78 b82 b84 b85 b8b b8e b91 b92 b96 b99 b9b b9c b9d b9e ba0 ba3 ba5 ba8 bab",
  "bae bba bbe bc3 bc6 bc9 bca bce bd0 bd1 bd7 bd8 be6 bfb c00 c0d c0e c11 c12 c29 c2a c3a c3c",
  "c45 c46 c49 c4a c4e c55 c57 c58 c5b c5c c5e c60 c64 c66 c70 c77 c8d c8e c91 c92 ca9 caa cb4",
  "cb5 cba cbc cc5 cc6 cc9 cca cce cd5 cd7 cdc cdf ce0 ce4 ce6 cf0 cf1 cf4 d00 d0d d0e d11 d12",
  "d45 d46 d49 d4a d50 d54 d64 d66 d80 d81 d84 d85 d97 d9a db2 db3 dbc dbd dbe dc0 dc7 dca dcb",
  "dcf dd5 dd6 dd7 dd8 de0 de6 df0 df2 df5 e01 e3b e3f e5c e81 e83 e84 e85 e86 e8b e8c ea4 ea5",
  "ea6 ea7 ebe ec0 ec5 ec6 ec7 ec8 ecf ed0 eda edc ee0 f00 f48 f49 f6d f71 f98 f99 fbd fbe fcd",
  "fce fdb 1000 10c6 10c7 10c8 10cd 10ce 10d0 1249 124a 124e 1250 1257 1258 1259 125a 125e 1260",
  "1289 128a 128e 1290 12b1 12b2 12b6 12b8 12bf 12c0 12c1 12c2 12c6 12c8 12d7 12d8 1311 1312 1316",
  "1318 135b 135d 137d 1380 139a 13a0 13f6 13f8 13fe 1400 1680 1681 169d 16a0 16f9 1700 1716 171f",
  "1737 1740 1754 1760 176d 176e 1771 1772 1774 1780 17de 17e0 17ea 17f0 17fa 1800 181a 1820 1879",
  "1880 18ab 18b0 18f6 1900 191f 1920 192c 1930 193c 1940 1941 1944 196e 1970 1975 1980 19ac 19b0",
  "19ca 19d0 19db 19de 1a1c 1a1e 1a5f 1a60 1a7d 1a7f 1a8a 1a90 1a9a 1aa0 1aae 1ab0 1ade 1ae0 1aec",
  "1b00 1b4d 1b4e 1bf4 1bfc 1c38 1c3b 1c4a 1c4d 1c8b 1c90 1cbb 1cbd 1cc8 1cd0 1cfb 1d00 1f16 1f18",
  "1f1e 1f20 1f46 1f48 1f4e 1f50 1f58 1f59 1f5a 1f5b 1f5c 1f5d 1f5e 1f5f 1f7e 1f80 1fb5 1fb6 1fc5",
  "1fc6 1fd4 1fd6 1fdc 1fdd 1ff0 1ff2 1ff5 1ff6 1fff 2000 200e 2010 2024 2027 2028 202f 2065 206a",
  "2072 2074 208f 2090 209d 20a0 20c2 20d0 20f1 2100 218c 2190 242a 2440 244b 2460 2488 249c 2b74",
  "2b76 2cf4 2cf9 2d26 2d27 2d28 2d2d 2d2e 2d30 2d68 2d6f 2d71 2d7f 2d97 2da0 2da7 2da8 2daf 2db0",
  "2db7 2db8 2dbf 2dc0 2dc7 2dc8 2dcf 2dd0 2dd7 2dd8 2ddf 2de0 2e5e 2e80 2e9a 2e9b 2ef4 2f00 2fd6",
  "3000 3040 3041 3097 3099 3100 3105 3130 3131 318f 3190 31e6 31f0 321f 3220 33c2 33c3 33c7 33c8",
  "33d8 33d9 a48d a490 a4c7 a4d0 a62c a640 a6f8 a700 a7dd a7f1 a82d a830 a83a a840 a878 a880 a8c6",
  "a8ce a8da a8e0 a954 a95f a97d a980 a9ce a9cf a9da a9de a9ff aa00 aa37 aa40 aa4e aa50 aa5a aa5c",
  "aac3 aadb aaf7 ab01 ab07 ab09 ab0f ab11 ab17 ab20 ab27 ab28 ab2f ab30 ab6c ab70 abee abf0 abfa",
  "ac00 d7a4 d7b0 d7c7 d7cb d7fc f900 fa6e fa70 fada fb00 fb07 fb13 fb18 fb1d fb37 fb38 fb3d fb3e",
  "fb3f fb40 fb42 fb43 fb45 fb46 fdd0 fdf0 fe12 fe13 fe19 fe20 fe30 fe31 fe52 fe54 fe67 fe68 fe6c",
  "fe70 fe75 fe76 fefd feff ff00 ff01 ffbf ffc2 ffc8 ffca ffd0 ffd2 ffd8 ffda ffdd ffe0 ffe7 ffe8",
  "ffef 10000 1000c 1000d 10027 10028 1003b 1003c 1003e 1003f 1004e 10050 1005e 10080 100fb 10100",
  "10103 10107 10134 10137 1018f 10190 1019d 101a0 101a1 101d0 101fe 10280 1029d 102a0 102d1",
  "102e0 102fc 10300 10324 1032d 1034b 10350 1037b 10380 1039e 1039f 103c4 103c8 103d6 10400",
  "1049e 104a0 104aa 104b0 104d4 104d8 104fc 10500 10528 10530 10564 1056f 1057b 1057c 1058b",
  "1058c 10593 10594 10596 10597 105a2 105a3 105b2 105b3 105ba 105bb 105bd 105c0 105f4 10600",
  "10737 10740 10756 10760 10768 10780 10786 10787 107b1 107b2 107bb 10800 10806 10808 10809",
  "1080a 10836 10837 10839 1083c 1083d 1083f 10856 10857 1089f 108a7 108b0 108e0 108f3 108f4",
  "108f6 108fb 1091c 1091f 1093a 1093f 1095a 10980 109b8 109bc 109d0 109d2 10a04 10a05 10a07",
  "10a0c 10a14 10a15 10a18 10a19 10a36 10a38 10a3b 10a3f 10a49 10a50 10a59 10a60 10aa0 10ac0",
  "10ae7 10aeb 10af7 10b00 10b36 10b39 10b56 10b58 10b73 10b78 10b92 10b99 10b9d 10ba9 10bb0",
  "10c00 10c49 10c80 10cb3 10cc0 10cf3 10cfa 10d28 10d30 10d3a 10d40 10d66 10d69 10d86 10d8e",
  "10d90 10e60 10e7f 10e80 10eaa 10eab 10eae 10eb0 10eb2 10ec2 10ec8 10ed0 10ed9 10efa 10f28",
  "10f30 10f5a 10f70 10f8a 10fb0 10fcc 10fe0 10ff7 11000 1104e 11052 11076 1107f 110bd 110be",
  "110c3 110d0 110e9 110f0 110fa 11100 11135 11136 11148 11150 11177 11180 111e0 111e1 111f5",
  "11200 11212 11213 11242 11280 11287 11288 11289 1128a 1128e 1128f 1129e 1129f 112aa 112b0",
  "112eb 112f0 112fa 11300 11304 11305 1130d 1130f 11311 11313 11329 1132a 11331 11332 11334",
  "11335 1133a 1133b 11345 11347 11349 1134b 1134e 11350 11351 11357 11358 1135d 11364 11366",
  "1136d 11370 11375 11380 1138a 1138b 1138c 1138e 1138f 11390 113b6 113b7 113c1 113c2 113c3",
  "113c5 113c6 113c7 113cb 113cc 113d6 113d7 113d9 113e1 113e3 11400 1145c 1145d 11462 11480",
  "114c8 114d0 114da 11580 115b6 115b8 115de 11600 11645 11650 1165a 11660 1166d 11680 116ba",
  "116c0 116ca 116d0 116e4 11700 1171b 1171d 1172c 11730 11747 11800 1183c 118a0 118f3 118ff",
  "11907 11909 1190a 1190c 11914 11915 11917 11918 11936 11937 11939 1193b 11947 11950 1195a",
  "119a0 119a8 119aa 119d8 119da 119e5 11a00 11a48 11a50 11aa3 11ab0 11af9 11b00 11b0a 11b60",
  "11b68 11bc0 11be2 11bf0 11bfa 11c00 11c09 11c0a 11c37 11c38 11c46 11c50 11c6d 11c70 11c90",
  "11c92 11ca8 11ca9 11cb7 11d00 11d07 11d08 11d0a 11d0b 11d37 11d3a 11d3b 11d3c 11d3e 11d3f",
  "11d48 11d50 11d5a 11d60 11d66 11d67 11d69 11d6a 11d8f 11d90 11d92 11d93 11d99 11da0 11daa",
  "11db0 11ddc 11de0 11dea 11ee0 11ef9 11f00 11f11 11f12 11f3b 11f3e 11f5b 11fb0 11fb1 11fc0",
  "11ff2 11fff 1239a 12400 1246f 12470 12475 12480 12544 12f90 12ff3 13000 13430 13440 13456",
  "13460 143fb 14400 14647 16100 1613a 16800 16a39 16a40 16a5f 16a60 16a6a 16a6e 16abf 16ac0",
  "16aca 16ad0 16aee 16af0 16af6 16b00 16b46 16b50 16b5a 16b5b 16b62 16b63 16b78 16b7d 16b90",
  "16d40 16d7a 16e40 16e9b 16ea0 16eb9 16ebb 16ed4 16f00 16f4b 16f4f 16f88 16f8f 16fa0 16fe0",
  "16fe5 16ff0 16ff7 17000 18cd6 18cff 18d1f 18d80 18df3 1aff0 1aff4 1aff5 1affc 1affd 1afff",
  "1b000 1b123 1b132 1b133 1b150 1b153 1b155 1b156 1b164 1b168 1b170 1b2fc 1bc00 1bc6b 1bc70",
  "1bc7d 1bc80 1bc89 1bc90 1bc9a 1bc9c 1bca4 1cc00 1ccfd 1cd00 1ceb4 1ceba 1ced1 1cee0 1cef1",
  "1cf00 1cf2e 1cf30 1cf47 1cf50 1cfc4 1d000 1d0f6 1d100 1d127 1d129 1d1eb 1d200 1d246 1d2c0",
  "1d2d4 1d2e0 1d2f4 1d300 1d357 1d360 1d379 1d400 1d455 1d456 1d49d 1d49e 1d4a0 1d4a2 1d4a3",
  "1d4a5 1d4a7 1d4a9 1d4ad 1d4ae 1d4ba 1d4bb 1d4bc 1d4bd 1d4c4 1d4c5 1d506 1d507 1d50b 1d50d",
  "1d515 1d516 1d51d 1d51e 1d53a 1d53b 1d53f 1d540 1d545 1d546 1d547 1d54a 1d551 1d552 1d6a6",
  "1d6a8 1d7cc 1d7ce 1da8c 1da9b 1daa0 1daa1 1dab0 1df00 1df1f 1df25 1df2b 1e000 1e007 1e008",
  "1e019 1e01b 1e022 1e023 1e025 1e026 1e02b 1e030 1e06e 1e08f 1e090 1e100 1e12d 1e130 1e13e",
  "1e140 1e14a 1e14e 1e150 1e290 1e2af 1e2c0 1e2fa 1e2ff 1e300 1e4d0 1e4fa 1e5d0 1e5fb 1e5ff",
  "1e600 1e6c0 1e6df 1e6e0 1e6f6 1e6fe 1e700 1e7e0 1e7e7 1e7e8 1e7ec 1e7ed 1e7ef 1e7f0 1e7ff",
  "1e800 1e8c5 1e8c7 1e8d7 1e900 1e94c 1e950 1e95a 1e95e 1e960 1ec71 1ecb5 1ed01 1ed3e 1ee00",
  "1ee04 1ee05 1ee20 1ee21 1ee23 1ee24 1ee25 1ee27 1ee28 1ee29 1ee33 1ee34 1ee38 1ee39 1ee3a",
  "1ee3b 1ee3c 1ee42 1ee43 1ee47 1ee48 1ee49 1ee4a 1ee4b 1ee4c 1ee4d 1ee50 1ee51 1ee53 1ee54",
  "1ee55 1ee57 1ee58 1ee59 1ee5a 1ee5b 1ee5c 1ee5d 1ee5e 1ee5f 1ee60 1ee61 1ee63 1ee64 1ee65",
  "1ee67 1ee6b 1ee6c 1ee73 1ee74 1ee78 1ee79 1ee7d 1ee7e 1ee7f 1ee80 1ee8a 1ee8b 1ee9c 1eea1",
  "1eea4 1eea5 1eeaa 1eeab 1eebc 1eef0 1eef2 1f000 1f02c 1f030 1f094 1f0a0 1f0af 1f0b1 1f0c0",
  "1f0c1 1f0d0 1f0d1 1f0f6 1f101 1f1ae 1f1e6 1f203 1f210 1f23c 1f240 1f249 1f250 1f252 1f260",
  "1f266 1f300 1f6d9 1f6dc 1f6ed 1f6f0 1f6fd 1f700 1f7da 1f7e0 1f7ec 1f7f0 1f7f1 1f800 1f80c",
  "1f810 1f848 1f850 1f85a 1f860 1f888 1f890 1f8ae 1f8b0 1f8bc 1f8c0 1f8c2 1f8d0 1f8d9 1f900",
  "1fa58 1fa60 1fa6e 1fa70 1fa7d 1fa80 1fa8b 1fa8e 1fac7 1fac8 1fac9 1facd 1fadd 1fadf 1faeb",
  "1faef 1faf9 1fb00 1fb93 1fb94 1fbfb 20000 2a6e0 2a700 2b81e 2b820 2ceae 2ceb0 2ebe1 2ebf0",
  "2ee5e 2f800 2fa1e 30000 3134b 31350 3347a e0100 e01f0"]

def barredBoundaries : List Nat := listed barredTable

/-- Where the characters begin and end that are dropped. -/
def droppedTable : List String := [
  "ad ae 34f 350 115f 1161 17b4 17b6 180b 1810 200b 200c 2060 2065 206a 2070 3164 3165 fe00 fe10",
  "feff ff00 ffa0 ffa1 1bca0 1bca4 1d173 1d17b e0100 e01f0"]

def droppedBoundaries : List Nat := listed droppedTable

/-- Characters that become another one, in runs: the first and the last, the step from one to the
next, and what the first becomes. Those that composing changes in the same way are left out. -/
def shiftTable : List String := [
  "a0 a0 1 20 aa aa 1 61 b2 b3 1 32 b5 b5 1 3bc b9 b9 1 31 ba ba 1 6f c0 d6 1 e0 d8 de 1 f8 100",
  "12e 2 101 134 136 2 135 139 13d 2 13a 141 147 2 142 14a 176 2 14b 178 178 1 ff 179 17d 2 17a",
  "17f 17f 1 73 181 181 1 253 182 184 2 183 186 186 1 254 187 187 1 188 189 18a 1 256 18b 18b 1",
  "18c 18e 18e 1 1dd 18f 18f 1 259 190 190 1 25b 191 191 1 192 193 193 1 260 194 194 1 263 196",
  "196 1 269 197 197 1 268 198 198 1 199 19c 19c 1 26f 19d 19d 1 272 19f 19f 1 275 1a0 1a4 2 1a1",
  "1a6 1a6 1 280 1a7 1a7 1 1a8 1a9 1a9 1 283 1ac 1ac 1 1ad 1ae 1ae 1 288 1af 1af 1 1b0 1b1 1b2 1",
  "28a 1b3 1b5 2 1b4 1b7 1b7 1 292 1b8 1b8 1 1b9 1bc 1bc 1 1bd 1cd 1db 2 1ce 1de 1ee 2 1df 1f4",
  "1f4 1 1f5 1f6 1f6 1 195 1f7 1f7 1 1bf 1f8 21e 2 1f9 220 220 1 19e 222 232 2 223 23a 23a 1 2c65",
  "23b 23b 1 23c 23d 23d 1 19a 23e 23e 1 2c66 241 241 1 242 243 243 1 180 244 244 1 289 245 245 1",
  "28c 246 24e 2 247 2b0 2b2 2 68 2b1 2b1 1 266 2b3 2b3 1 72 2b4 2b4 1 279 2b5 2b5 1 27b 2b6 2b6",
  "1 281 2b7 2b7 1 77 2b8 2b8 1 79 2e0 2e0 1 263 2e1 2e1 1 6c 2e2 2e2 1 73 2e3 2e3 1 78 2e4 2e4 1",
  "295 345 345 1 3b9 370 372 2 371 376 376 1 377 37f 37f 1 3f3 386 386 1 3ac 388 38a 1 3ad 38c",
  "38c 1 3cc 38e 38f 1 3cd 391 3a1 1 3b1 3a3 3ab 1 3c3 3cf 3cf 1 3d7 3d0 3d0 1 3b2 3d1 3d1 1 3b8",
  "3d2 3d2 1 3c5 3d3 3d3 1 3cd 3d4 3d4 1 3cb 3d5 3d5 1 3c6 3d6 3d6 1 3c0 3d8 3ee 2 3d9 3f0 3f0 1",
  "3ba 3f1 3f1 1 3c1 3f2 3f2 1 3c3 3f4 3f4 1 3b8 3f5 3f5 1 3b5 3f7 3f7 1 3f8 3f9 3f9 1 3c3 3fa",
  "3fa 1 3fb 3fd 3ff 1 37b 400 40f 1 450 410 42f 1 430 460 480 2 461 48a 4be 2 48b 4c0 4c0 1 4cf",
  "4c1 4cd 2 4c2 4d0 52e 2 4d1 531 556 1 561 f0c f0c 1 f0b 10a0 10c5 1 2d00 10c7 10c7 1 2d27 10cd",
  "10cd 1 2d2d 10fc 10fc 1 10dc 13f8 13fd 1 13f0 1c80 1c80 1 432 1c81 1c81 1 434 1c82 1c82 1 43e",
  "1c83 1c84 1 441 1c85 1c85 1 442 1c86 1c86 1 44a 1c87 1c87 1 463 1c88 1c88 1 a64b 1c89 1c89 1",
  "1c8a 1c90 1cba 1 10d0 1cbd 1cbf 1 10fd 1d2c 1d2c 1 61 1d2d 1d2d 1 e6 1d2e 1d30 2 62 1d31 1d39",
  "2 65 1d32 1d32 1 1dd 1d34 1d3a 2 68 1d3c 1d3c 1 6f 1d3d 1d3d 1 223 1d3e 1d3e 1 70 1d3f 1d3f 1",
  "72 1d40 1d41 1 74 1d42 1d42 1 77 1d43 1d43 1 61 1d44 1d45 1 250 1d46 1d46 1 1d02 1d47 1d47 1",
  "62 1d48 1d49 1 64 1d4a 1d4a 1 259 1d4b 1d4c 1 25b 1d4d 1d4d 1 67 1d4f 1d4f 1 6b 1d50 1d52 2 6d",
  "1d51 1d51 1 14b 1d53 1d53 1 254 1d54 1d55 1 1d16 1d56 1d56 1 70 1d57 1d58 1 74 1d59 1d59 1",
  "1d1d 1d5a 1d5a 1 26f 1d5b 1d5b 1 76 1d5c 1d5c 1 1d25 1d5d 1d5f 1 3b2 1d60 1d61 1 3c6 1d62 1d62",
  "1 69 1d63 1d63 1 72 1d64 1d65 1 75 1d66 1d67 1 3b2 1d68 1d68 1 3c1 1d69 1d6a 1 3c6 1d78 1d78 1",
  "43d 1d9b 1d9b 1 252 1d9c 1d9c 1 63 1d9d 1d9d 1 255 1d9e 1d9e 1 f0 1d9f 1d9f 1 25c 1da0 1da0 1",
  "66 1da1 1da1 1 25f 1da2 1da2 1 261 1da3 1da3 1 265 1da4 1da6 1 268 1da7 1da7 1 1d7b 1da8 1da8",
  "1 29d 1da9 1da9 1 26d 1daa 1daa 1 1d85 1dab 1dab 1 29f 1dac 1dac 1 271 1dad 1dad 1 270 1dae",
  "1db1 1 272 1db2 1db2 1 278 1db3 1db4 1 282 1db5 1db5 1 1ab 1db6 1db7 1 289 1db8 1db8 1 1d1c",
  "1db9 1dba 1 28b 1dbb 1dbb 1 7a 1dbc 1dbe 1 290 1dbf 1dbf 1 3b8 1e00 1e94 2 1e01 1e9b 1e9b 1",
  "1e61 1e9e 1e9e 1 df 1ea0 1efe 2 1ea1 1f08 1f0f 1 1f00 1f18 1f1d 1 1f10 1f28 1f2f 1 1f20 1f38",
  "1f3f 1 1f30 1f48 1f4d 1 1f40 1f59 1f5f 2 1f51 1f68 1f6f 1 1f60 1fb8 1fb9 1 1fb0 1fba 1fba 1",
  "1f70 1fbb 1fbb 1 3ac 1fc8 1fca 2 1f72 1fc9 1fc9 1 3ad 1fcb 1fcb 1 3ae 1fd8 1fd9 1 1fd0 1fda",
  "1fda 1 1f76 1fdb 1fdb 1 3af 1fe8 1fe9 1 1fe0 1fea 1fea 1 1f7a 1feb 1feb 1 3cd 1fec 1fec 1 1fe5",
  "1ff8 1ff8 1 1f78 1ff9 1ffb 2 3cc 1ffa 1ffa 1 1f7c 2000 2000 1 20 2001 2001 1 20 2002 2002 1 20",
  "2003 2003 1 20 2004 2004 1 20 2005 2005 1 20 2006 2006 1 20 2007 2007 1 20 2008 2008 1 20 2009",
  "2009 1 20 200a 200a 1 20 2011 2011 1 2010 202f 202f 1 20 205f 205f 1 20 2070 2070 1 30 2071",
  "2071 1 69 2074 2079 1 34 207a 207a 1 2b 207b 207b 1 2212 207c 207c 1 3d 207d 207e 1 28 207f",
  "207f 1 6e 2080 2089 1 30 208a 208a 1 2b 208b 208b 1 2212 208c 208c 1 3d 208d 208e 1 28 2090",
  "2090 1 61 2091 2091 1 65 2092 2092 1 6f 2093 2093 1 78 2094 2094 1 259 2095 2095 1 68 2096",
  "2099 1 6b 209a 209a 1 70 209b 209c 1 73 2102 2102 1 63 2107 2107 1 25b 210a 210b 1 67 210c",
  "210c 1 68 210d 210d 1 68 210e 210e 1 68 210f 210f 1 127 2110 2110 1 69 2111 2111 1 69 2112",
  "2112 1 6c 2113 2115 2 6c 2119 211b 1 70 211c 211c 1 72 211d 211d 1 72 2124 2124 1 7a 2126 2126",
  "1 3c9 2128 2128 1 7a 212a 212a 1 6b 212b 212b 1 e5 212c 212d 1 62 212f 212f 1 65 2130 2131 1",
  "65 2132 2132 1 214e 2133 2133 1 6d 2134 2134 1 6f 2135 2138 1 5d0 2139 2139 1 69 213c 213c 1",
  "3c0 213d 213d 1 3b3 213e 213e 1 3b3 213f 213f 1 3c0 2140 2140 1 2211 2145 2145 1 64 2146 2147",
  "1 64 2148 2149 1 69 2160 2160 1 69 2164 2164 1 76 2169 2169 1 78 216c 216c 1 6c 216d 216e 1 63",
  "216f 216f 1 6d 2170 2170 1 69 2174 2174 1 76 2179 2179 1 78 217c 217c 1 6c 217d 217e 1 63 217f",
  "217f 1 6d 2183 2183 1 2184 2460 2468 1 31 24b6 24cf 1 61 24d0 24e9 1 61 24ea 24ea 1 30 2c00",
  "2c2f 1 2c30 2c60 2c60 1 2c61 2c62 2c62 1 26b 2c63 2c63 1 1d7d 2c64 2c64 1 27d 2c67 2c6b 2 2c68",
  "2c6d 2c6d 1 251 2c6e 2c6e 1 271 2c6f 2c6f 1 250 2c70 2c70 1 252 2c72 2c72 1 2c73 2c75 2c75 1",
  "2c76 2c7c 2c7c 1 6a 2c7d 2c7d 1 76 2c7e 2c7f 1 23f 2c80 2ce2 2 2c81 2ceb 2ced 2 2cec 2cf2 2cf2",
  "1 2cf3 2d6f 2d6f 1 2d61 2e9f 2e9f 1 6bcd 2ef3 2ef3 1 9f9f 2f00 2f00 1 4e00 2f01 2f01 1 4e28",
  "2f02 2f02 1 4e36 2f03 2f03 1 4e3f 2f04 2f04 1 4e59 2f05 2f05 1 4e85 2f06 2f06 1 4e8c 2f07 2f07",
  "1 4ea0 2f08 2f08 1 4eba 2f09 2f09 1 513f 2f0a 2f0a 1 5165 2f0b 2f0b 1 516b 2f0c 2f0c 1 5182",
  "2f0d 2f0d 1 5196 2f0e 2f0e 1 51ab 2f0f 2f0f 1 51e0 2f10 2f10 1 51f5 2f11 2f11 1 5200 2f12 2f12",
  "1 529b 2f13 2f13 1 52f9 2f14 2f14 1 5315 2f15 2f15 1 531a 2f16 2f16 1 5338 2f17 2f17 1 5341",
  "2f18 2f18 1 535c 2f19 2f19 1 5369 2f1a 2f1a 1 5382 2f1b 2f1b 1 53b6 2f1c 2f1c 1 53c8 2f1d 2f1d",
  "1 53e3 2f1e 2f1e 1 56d7 2f1f 2f1f 1 571f 2f20 2f20 1 58eb 2f21 2f21 1 5902 2f22 2f22 1 590a",
  "2f23 2f23 1 5915 2f24 2f24 1 5927 2f25 2f25 1 5973 2f26 2f26 1 5b50 2f27 2f27 1 5b80 2f28 2f28",
  "1 5bf8 2f29 2f29 1 5c0f 2f2a 2f2a 1 5c22 2f2b 2f2b 1 5c38 2f2c 2f2c 1 5c6e 2f2d 2f2d 1 5c71",
  "2f2e 2f2e 1 5ddb 2f2f 2f2f 1 5de5 2f30 2f30 1 5df1 2f31 2f31 1 5dfe 2f32 2f32 1 5e72 2f33 2f33",
  "1 5e7a 2f34 2f34 1 5e7f 2f35 2f35 1 5ef4 2f36 2f36 1 5efe 2f37 2f37 1 5f0b 2f38 2f38 1 5f13",
  "2f39 2f39 1 5f50 2f3a 2f3a 1 5f61 2f3b 2f3b 1 5f73 2f3c 2f3c 1 5fc3 2f3d 2f3d 1 6208 2f3e 2f3e",
  "1 6236 2f3f 2f3f 1 624b 2f40 2f40 1 652f 2f41 2f41 1 6534 2f42 2f42 1 6587 2f43 2f43 1 6597",
  "2f44 2f44 1 65a4 2f45 2f45 1 65b9 2f46 2f46 1 65e0 2f47 2f47 1 65e5 2f48 2f48 1 66f0 2f49 2f49",
  "1 6708 2f4a 2f4a 1 6728 2f4b 2f4b 1 6b20 2f4c 2f4c 1 6b62 2f4d 2f4d 1 6b79 2f4e 2f4e 1 6bb3",
  "2f4f 2f4f 1 6bcb 2f50 2f50 1 6bd4 2f51 2f51 1 6bdb 2f52 2f52 1 6c0f 2f53 2f53 1 6c14 2f54 2f54",
  "1 6c34 2f55 2f55 1 706b 2f56 2f56 1 722a 2f57 2f57 1 7236 2f58 2f58 1 723b 2f59 2f59 1 723f",
  "2f5a 2f5a 1 7247 2f5b 2f5b 1 7259 2f5c 2f5c 1 725b 2f5d 2f5d 1 72ac 2f5e 2f5e 1 7384 2f5f 2f5f",
  "1 7389 2f60 2f60 1 74dc 2f61 2f61 1 74e6 2f62 2f62 1 7518 2f63 2f63 1 751f 2f64 2f64 1 7528",
  "2f65 2f65 1 7530 2f66 2f66 1 758b 2f67 2f67 1 7592 2f68 2f68 1 7676 2f69 2f69 1 767d 2f6a 2f6a",
  "1 76ae 2f6b 2f6b 1 76bf 2f6c 2f6c 1 76ee 2f6d 2f6d 1 77db 2f6e 2f6e 1 77e2 2f6f 2f6f 1 77f3",
  "2f70 2f70 1 793a 2f71 2f71 1 79b8 2f72 2f72 1 79be 2f73 2f73 1 7a74 2f74 2f74 1 7acb 2f75 2f75",
  "1 7af9 2f76 2f76 1 7c73 2f77 2f77 1 7cf8 2f78 2f78 1 7f36 2f79 2f79 1 7f51 2f7a 2f7a 1 7f8a",
  "2f7b 2f7b 1 7fbd 2f7c 2f7c 1 8001 2f7d 2f7d 1 800c 2f7e 2f7e 1 8012 2f7f 2f7f 1 8033 2f80 2f80",
  "1 807f 2f81 2f81 1 8089 2f82 2f82 1 81e3 2f83 2f83 1 81ea 2f84 2f84 1 81f3 2f85 2f85 1 81fc",
  "2f86 2f86 1 820c 2f87 2f87 1 821b 2f88 2f88 1 821f 2f89 2f89 1 826e 2f8a 2f8a 1 8272 2f8b 2f8b",
  "1 8278 2f8c 2f8c 1 864d 2f8d 2f8d 1 866b 2f8e 2f8e 1 8840 2f8f 2f8f 1 884c 2f90 2f90 1 8863",
  "2f91 2f91 1 897e 2f92 2f92 1 898b 2f93 2f93 1 89d2 2f94 2f94 1 8a00 2f95 2f95 1 8c37 2f96 2f96",
  "1 8c46 2f97 2f97 1 8c55 2f98 2f98 1 8c78 2f99 2f99 1 8c9d 2f9a 2f9a 1 8d64 2f9b 2f9b 1 8d70",
  "2f9c 2f9c 1 8db3 2f9d 2f9d 1 8eab 2f9e 2f9e 1 8eca 2f9f 2f9f 1 8f9b 2fa0 2fa0 1 8fb0 2fa1 2fa1",
  "1 8fb5 2fa2 2fa2 1 9091 2fa3 2fa3 1 9149 2fa4 2fa4 1 91c6 2fa5 2fa5 1 91cc 2fa6 2fa6 1 91d1",
  "2fa7 2fa7 1 9577 2fa8 2fa8 1 9580 2fa9 2fa9 1 961c 2faa 2faa 1 96b6 2fab 2fab 1 96b9 2fac 2fac",
  "1 96e8 2fad 2fad 1 9751 2fae 2fae 1 975e 2faf 2faf 1 9762 2fb0 2fb0 1 9769 2fb1 2fb1 1 97cb",
  "2fb2 2fb2 1 97ed 2fb3 2fb3 1 97f3 2fb4 2fb4 1 9801 2fb5 2fb5 1 98a8 2fb6 2fb6 1 98db 2fb7 2fb7",
  "1 98df 2fb8 2fb8 1 9996 2fb9 2fb9 1 9999 2fba 2fba 1 99ac 2fbb 2fbb 1 9aa8 2fbc 2fbc 1 9ad8",
  "2fbd 2fbd 1 9adf 2fbe 2fbe 1 9b25 2fbf 2fbf 1 9b2f 2fc0 2fc0 1 9b32 2fc1 2fc1 1 9b3c 2fc2 2fc2",
  "1 9b5a 2fc3 2fc3 1 9ce5 2fc4 2fc4 1 9e75 2fc5 2fc5 1 9e7f 2fc6 2fc6 1 9ea5 2fc7 2fc7 1 9ebb",
  "2fc8 2fc8 1 9ec3 2fc9 2fc9 1 9ecd 2fca 2fca 1 9ed1 2fcb 2fcb 1 9ef9 2fcc 2fcc 1 9efd 2fcd 2fcd",
  "1 9f0e 2fce 2fce 1 9f13 2fcf 2fcf 1 9f20 2fd0 2fd0 1 9f3b 2fd1 2fd1 1 9f4a 2fd2 2fd2 1 9f52",
  "2fd3 2fd3 1 9f8d 2fd4 2fd4 1 9f9c 2fd5 2fd5 1 9fa0 3000 3000 1 20 3002 3002 1 2e 3036 3036 1",
  "3012 3038 3038 1 5341 3039 303a 1 5344 3131 3132 1 1100 3133 3135 2 11aa 3134 3134 1 1102 3136",
  "3136 1 11ad 3137 3139 1 1103 313a 313f 1 11b0 3140 3140 1 111a 3141 3143 1 1106 3144 3144 1",
  "1121 3145 314e 1 1109 314f 3163 1 1161 3165 3166 1 1114 3167 3168 1 11c7 3169 3169 1 11cc 316a",
  "316a 1 11ce 316b 316b 1 11d3 316c 316c 1 11d7 316d 316d 1 11d9 316e 316e 1 111c 316f 316f 1",
  "11dd 3170 3170 1 11df 3171 3172 1 111d 3173 3173 1 1120 3174 3175 1 1122 3176 3176 1 1127 3177",
  "3177 1 1129 3178 317c 1 112b 317d 317d 1 1132 317e 317e 1 1136 317f 317f 1 1140 3180 3180 1",
  "1147 3181 3181 1 114c 3182 3183 1 11f1 3184 3186 1 1157 3187 3188 1 1184 3189 3189 1 1188 318a",
  "318b 1 1191 318c 318c 1 1194 318d 318d 1 119e 318e 318e 1 11a1 3192 3192 1 4e00 3193 3193 1",
  "4e8c 3194 3194 1 4e09 3195 3195 1 56db 3196 3196 1 4e0a 3197 3197 1 4e2d 3198 3198 1 4e0b 3199",
  "3199 1 7532 319a 319a 1 4e59 319b 319b 1 4e19 319c 319c 1 4e01 319d 319d 1 5929 319e 319e 1",
  "5730 319f 319f 1 4eba 3244 3244 1 554f 3245 3245 1 5e7c 3246 3246 1 6587 3247 3247 1 7b8f 3260",
  "3260 1 1100 3261 3262 1 1102 3263 3265 1 1105 3266 3266 1 1109 3267 3268 1 110b 3269 326d 1",
  "110e 326e 326e 1 ac00 326f 326f 1 b098 3270 3270 1 b2e4 3271 3271 1 b77c 3272 3272 1 b9c8 3273",
  "3273 1 bc14 3274 3274 1 c0ac 3275 3275 1 c544 3276 3276 1 c790 3277 3277 1 cc28 3278 3278 1",
  "ce74 3279 3279 1 d0c0 327a 327a 1 d30c 327b 327b 1 d558 327e 327e 1 c6b0 3280 3280 1 4e00 3281",
  "3281 1 4e8c 3282 3282 1 4e09 3283 3283 1 56db 3284 3284 1 4e94 3285 3285 1 516d 3286 3286 1",
  "4e03 3287 3287 1 516b 3288 3288 1 4e5d 3289 3289 1 5341 328a 328a 1 6708 328b 328b 1 706b 328c",
  "328c 1 6c34 328d 328d 1 6728 328e 328e 1 91d1 328f 328f 1 571f 3290 3290 1 65e5 3291 3291 1",
  "682a 3292 3292 1 6709 3293 3293 1 793e 3294 3294 1 540d 3295 3295 1 7279 3296 3296 1 8ca1 3297",
  "3297 1 795d 3298 3298 1 52b4 3299 3299 1 79d8 329a 329a 1 7537 329b 329b 1 5973 329c 329c 1",
  "9069 329d 329d 1 512a 329e 329e 1 5370 329f 329f 1 6ce8 32a0 32a0 1 9805 32a1 32a1 1 4f11 32a2",
  "32a2 1 5199 32a3 32a3 1 6b63 32a4 32a4 1 4e0a 32a5 32a5 1 4e2d 32a6 32a6 1 4e0b 32a7 32a7 1",
  "5de6 32a8 32a8 1 53f3 32a9 32a9 1 533b 32aa 32aa 1 5b97 32ab 32ab 1 5b66 32ac 32ac 1 76e3 32ad",
  "32ad 1 4f01 32ae 32ae 1 8cc7 32af 32af 1 5354 32b0 32b0 1 591c 32d0 32d0 1 30a2 32d1 32d1 1",
  "30a4 32d2 32d2 1 30a6 32d3 32d3 1 30a8 32d4 32d5 1 30aa 32d6 32d6 1 30ad 32d7 32d7 1 30af 32d8",
  "32d8 1 30b1 32d9 32d9 1 30b3 32da 32da 1 30b5 32db 32db 1 30b7 32dc 32dc 1 30b9 32dd 32dd 1",
  "30bb 32de 32de 1 30bd 32df 32df 1 30bf 32e0 32e0 1 30c1 32e1 32e1 1 30c4 32e2 32e2 1 30c6 32e3",
  "32e3 1 30c8 32e4 32e9 1 30ca 32ea 32ea 1 30d2 32eb 32eb 1 30d5 32ec 32ec 1 30d8 32ed 32ed 1",
  "30db 32ee 32f2 1 30de 32f3 32f3 1 30e4 32f4 32f4 1 30e6 32f5 32fa 1 30e8 32fb 32fe 1 30ef a640",
  "a66c 2 a641 a680 a69a 2 a681 a69c a69c 1 44a a69d a69d 1 44c a722 a72e 2 a723 a732 a76e 2 a733",
  "a770 a770 1 a76f a779 a77b 2 a77a a77d a77d 1 1d79 a77e a786 2 a77f a78b a78b 1 a78c a78d a78d",
  "1 265 a790 a792 2 a791 a796 a7a8 2 a797 a7aa a7aa 1 266 a7ab a7ab 1 25c a7ac a7ac 1 261 a7ad",
  "a7ad 1 26c a7ae a7ae 1 26a a7b0 a7b0 1 29e a7b1 a7b1 1 287 a7b2 a7b2 1 29d a7b3 a7b3 1 ab53",
  "a7b4 a7c2 2 a7b5 a7c4 a7c4 1 a794 a7c5 a7c5 1 282 a7c6 a7c6 1 1d8e a7c7 a7c9 2 a7c8 a7cb a7cb",
  "1 264 a7cc a7da 2 a7cd a7dc a7dc 1 19b a7f1 a7f1 1 73 a7f2 a7f2 1 63 a7f3 a7f3 1 66 a7f4 a7f4",
  "1 71 a7f5 a7f5 1 a7f6 a7f8 a7f8 1 127 a7f9 a7f9 1 153 ab5c ab5c 1 a727 ab5d ab5d 1 ab37 ab5e",
  "ab5e 1 26b ab5f ab5f 1 ab52 ab69 ab69 1 28d ab70 abbf 1 13a0 fb20 fb20 1 5e2 fb21 fb21 1 5d0",
  "fb22 fb23 1 5d3 fb24 fb26 1 5db fb27 fb27 1 5e8 fb28 fb28 1 5ea fb29 fb29 1 2b fb50 fb50 1 671",
  "fb51 fb51 1 671 fb52 fb52 1 67b fb53 fb53 1 67b fb54 fb54 1 67b fb55 fb55 1 67b fb56 fb56 1",
  "67e fb57 fb57 1 67e fb58 fb5a 2 67e fb59 fb5b 2 67e fb5c fb5c 1 680 fb5d fb5d 1 680 fb5e fb5e",
  "1 67a fb5f fb5f 1 67a fb60 fb60 1 67a fb61 fb61 1 67a fb62 fb62 1 67f fb63 fb63 1 67f fb64",
  "fb64 1 67f fb65 fb65 1 67f fb66 fb66 1 679 fb67 fb67 1 679 fb68 fb68 1 679 fb69 fb69 1 679",
  "fb6a fb6a 1 6a4 fb6b fb6b 1 6a4 fb6c fb6e 2 6a4 fb6d fb6f 2 6a4 fb70 fb70 1 6a6 fb71 fb71 1",
  "6a6 fb72 fb72 1 684 fb73 fb73 1 684 fb74 fb74 1 684 fb75 fb75 1 684 fb76 fb76 1 683 fb77 fb77",
  "1 683 fb78 fb78 1 683 fb79 fb79 1 683 fb7a fb7a 1 686 fb7b fb7b 1 686 fb7c fb7c 1 686 fb7d",
  "fb7e 1 686 fb7f fb7f 1 687 fb80 fb80 1 687 fb81 fb81 1 687 fb82 fb82 1 68d fb83 fb83 1 68d",
  "fb84 fb86 2 68c fb85 fb87 2 68c fb88 fb88 1 688 fb89 fb89 1 688 fb8a fb8a 1 698 fb8b fb8b 1",
  "698 fb8c fb8c 1 691 fb8d fb8d 1 691 fb8e fb8e 1 6a9 fb8f fb8f 1 6a9 fb90 fb90 1 6a9 fb91 fb91",
  "1 6a9 fb92 fb92 1 6af fb93 fb93 1 6af fb94 fb94 1 6af fb95 fb95 1 6af fb96 fb96 1 6b3 fb97",
  "fb97 1 6b3 fb98 fb98 1 6b3 fb99 fb99 1 6b3 fb9a fb9a 1 6b1 fb9b fb9b 1 6b1 fb9c fb9c 1 6b1",
  "fb9d fb9d 1 6b1 fb9e fb9e 1 6ba fb9f fba0 1 6ba fba1 fba1 1 6bb fba2 fba2 1 6bb fba3 fba3 1",
  "6bb fba4 fba4 1 6c0 fba5 fba6 1 6c0 fba7 fba7 1 6c1 fba8 fba8 1 6c1 fba9 fba9 1 6c1 fbaa fbaa",
  "1 6be fbab fbab 1 6be fbac fbac 1 6be fbad fbad 1 6be fbae fbae 1 6d2 fbaf fbb0 1 6d2 fbb1",
  "fbb1 1 6d3 fbd3 fbd3 1 6ad fbd4 fbd4 1 6ad fbd5 fbd5 1 6ad fbd6 fbd6 1 6ad fbd7 fbd7 1 6c7",
  "fbd8 fbd8 1 6c7 fbd9 fbdb 2 6c6 fbda fbdc 2 6c6 fbde fbde 1 6cb fbdf fbdf 1 6cb fbe0 fbe0 1",
  "6c5 fbe1 fbe1 1 6c5 fbe2 fbe2 1 6c9 fbe3 fbe3 1 6c9 fbe4 fbe4 1 6d0 fbe5 fbe5 1 6d0 fbe6 fbe6",
  "1 6d0 fbe7 fbe7 1 6d0 fbe8 fbe8 1 649 fbe9 fbe9 1 649 fbfc fbfc 1 6cc fbfd fbfd 1 6cc fbfe",
  "fbfe 1 6cc fbff fbff 1 6cc fe10 fe10 1 2c fe11 fe11 1 3001 fe13 fe14 1 3a fe15 fe15 1 21 fe16",
  "fe16 1 3f fe17 fe18 1 3016 fe31 fe31 1 2014 fe32 fe32 1 2013 fe33 fe33 1 5f fe34 fe34 1 5f",
  "fe35 fe36 1 28 fe37 fe37 1 7b fe38 fe38 1 7d fe39 fe3a 1 3014 fe3b fe3c 1 3010 fe3d fe3e 1",
  "300a fe3f fe40 1 3008 fe41 fe44 1 300c fe47 fe47 1 5b fe48 fe48 1 5d fe4d fe4d 1 5f fe4e fe4e",
  "1 5f fe4f fe4f 1 5f fe50 fe50 1 2c fe51 fe51 1 3001 fe54 fe54 1 3b fe55 fe55 1 3a fe56 fe56 1",
  "3f fe57 fe57 1 21 fe58 fe58 1 2014 fe59 fe5a 1 28 fe5b fe5b 1 7b fe5c fe5c 1 7d fe5d fe5e 1",
  "3014 fe5f fe5f 1 23 fe60 fe60 1 26 fe61 fe62 1 2a fe63 fe63 1 2d fe64 fe64 1 3c fe65 fe65 1 3e",
  "fe66 fe66 1 3d fe68 fe68 1 5c fe69 fe6a 1 24 fe6b fe6b 1 40 fe80 fe81 1 621 fe82 fe83 1 622",
  "fe84 fe85 1 623 fe86 fe87 1 624 fe88 fe89 1 625 fe8a fe8a 1 626 fe8b fe8b 1 626 fe8c fe8d 1",
  "626 fe8e fe8f 1 627 fe90 fe90 1 628 fe91 fe91 1 628 fe92 fe93 1 628 fe94 fe95 1 629 fe96 fe96",
  "1 62a fe97 fe97 1 62a fe98 fe99 1 62a fe9a fe9a 1 62b fe9b fe9b 1 62b fe9c fe9d 1 62b fe9e",
  "fe9e 1 62c fe9f fe9f 1 62c fea0 fea1 1 62c fea2 fea2 1 62d fea3 fea3 1 62d fea4 fea5 1 62d",
  "fea6 fea6 1 62e fea7 fea7 1 62e fea8 fea9 1 62e feaa feab 1 62f feac fead 1 630 feae feaf 1",
  "631 feb0 feb1 1 632 feb2 feb2 1 633 feb3 feb3 1 633 feb4 feb5 1 633 feb6 feb6 1 634 feb7 feb7",
  "1 634 feb8 feb9 1 634 feba feba 1 635 febb febb 1 635 febc febd 1 635 febe febe 1 636 febf",
  "febf 1 636 fec0 fec1 1 636 fec2 fec2 1 637 fec3 fec3 1 637 fec4 fec5 1 637 fec6 fec6 1 638",
  "fec7 fec7 1 638 fec8 fec9 1 638 feca feca 1 639 fecb fecb 1 639 fecc fecd 1 639 fece fece 1",
  "63a fecf fecf 1 63a fed0 fed0 1 63a fed1 fed1 1 641 fed2 fed2 1 641 fed3 fed3 1 641 fed4 fed5",
  "1 641 fed6 fed6 1 642 fed7 fed7 1 642 fed8 fed9 1 642 feda feda 1 643 fedb fedb 1 643 fedc",
  "fedd 1 643 fede fede 1 644 fedf fedf 1 644 fee0 fee1 1 644 fee2 fee2 1 645 fee3 fee3 1 645",
  "fee4 fee5 1 645 fee6 fee6 1 646 fee7 fee7 1 646 fee8 fee9 1 646 feea feea 1 647 feeb feeb 1",
  "647 feec feed 1 647 feee feef 1 648 fef0 fef1 1 649 fef2 fef2 1 64a fef3 fef3 1 64a fef4 fef4",
  "1 64a ff01 ff20 1 21 ff21 ff3a 1 61 ff3b ff5e 1 5b ff5f ff60 1 2985 ff61 ff61 1 2e ff62 ff63 1",
  "300c ff64 ff64 1 3001 ff65 ff65 1 30fb ff66 ff66 1 30f2 ff67 ff67 1 30a1 ff68 ff68 1 30a3 ff69",
  "ff69 1 30a5 ff6a ff6a 1 30a7 ff6b ff6b 1 30a9 ff6c ff6c 1 30e3 ff6d ff6d 1 30e5 ff6e ff6e 1",
  "30e7 ff6f ff6f 1 30c3 ff70 ff70 1 30fc ff71 ff71 1 30a2 ff72 ff72 1 30a4 ff73 ff73 1 30a6 ff74",
  "ff74 1 30a8 ff75 ff76 1 30aa ff77 ff77 1 30ad ff78 ff78 1 30af ff79 ff79 1 30b1 ff7a ff7a 1",
  "30b3 ff7b ff7b 1 30b5 ff7c ff7c 1 30b7 ff7d ff7d 1 30b9 ff7e ff7e 1 30bb ff7f ff7f 1 30bd ff80",
  "ff80 1 30bf ff81 ff81 1 30c1 ff82 ff82 1 30c4 ff83 ff83 1 30c6 ff84 ff84 1 30c8 ff85 ff8a 1",
  "30ca ff8b ff8b 1 30d2 ff8c ff8c 1 30d5 ff8d ff8d 1 30d8 ff8e ff8e 1 30db ff8f ff93 1 30de ff94",
  "ff94 1 30e4 ff95 ff95 1 30e6 ff96 ff9b 1 30e8 ff9c ff9c 1 30ef ff9d ff9d 1 30f3 ff9e ff9f 1",
  "3099 ffa1 ffa2 1 1100 ffa3 ffa5 2 11aa ffa4 ffa4 1 1102 ffa6 ffa6 1 11ad ffa7 ffa9 1 1103 ffaa",
  "ffaf 1 11b0 ffb0 ffb0 1 111a ffb1 ffb3 1 1106 ffb4 ffb4 1 1121 ffb5 ffbe 1 1109 ffc2 ffc7 1",
  "1161 ffca ffcf 1 1167 ffd2 ffd7 1 116d ffda ffdc 1 1173 ffe0 ffe1 1 a2 ffe2 ffe2 1 ac ffe4",
  "ffe4 1 a6 ffe5 ffe5 1 a5 ffe6 ffe6 1 20a9 ffe8 ffe8 1 2502 ffe9 ffec 1 2190 ffed ffed 1 25a0",
  "ffee ffee 1 25cb 10400 10427 1 10428 104b0 104d3 1 104d8 10570 10594 2 10597 10571 10579 2",
  "10598 1057d 10589 2 105a4 1058d 10591 2 105b4 10595 10595 1 105bc 10781 10782 1 2d0 10783",
  "10783 1 e6 10784 10784 1 299 10785 10785 1 253 10787 10789 2 2a3 10788 10788 1 ab66 1078a",
  "1078a 1 2a4 1078b 1078c 1 256 1078d 1078d 1 1d91 1078e 1078e 1 258 1078f 1078f 1 25e 10790",
  "10790 1 2a9 10791 10791 1 264 10792 10792 1 262 10793 10793 1 260 10794 10794 1 29b 10795",
  "10795 1 127 10796 10796 1 29c 10797 10797 1 267 10798 10798 1 284 10799 1079a 1 2aa 1079b",
  "1079b 1 26c 1079c 1079c 1 1df04 1079d 1079d 1 a78e 1079e 1079e 1 26e 1079f 1079f 1 1df05 107a0",
  "107a0 1 28e 107a1 107a1 1 1df06 107a2 107a2 1 f8 107a3 107a4 1 276 107a5 107a5 1 71 107a6",
  "107a6 1 27a 107a7 107a7 1 1df08 107a8 107a9 1 27d 107aa 107aa 1 280 107ab 107ab 1 2a8 107ac",
  "107ac 1 2a6 107ad 107ad 1 ab67 107ae 107ae 1 2a7 107af 107af 1 288 107b0 107b0 1 2c71 107b2",
  "107b2 1 28f 107b3 107b4 1 2a1 107b5 107b5 1 298 107b6 107b8 1 1c0 107b9 107b9 1 1df0a 107ba",
  "107ba 1 1df1e 10c80 10cb2 1 10cc0 10d50 10d65 1 10d70 118a0 118bf 1 118c0 16e40 16e5f 1 16e60",
  "16ea0 16eb8 1 16ebb 1ccd6 1ccef 1 61 1ccf0 1ccf9 1 30 1d400 1d419 1 61 1d41a 1d433 1 61 1d434",
  "1d44d 1 61 1d44e 1d466 2 61 1d44f 1d453 2 62 1d457 1d467 2 6a 1d468 1d481 1 61 1d482 1d49b 1",
  "61 1d49c 1d49e 2 61 1d49f 1d49f 1 64 1d4a2 1d4a2 1 67 1d4a5 1d4a6 1 6a 1d4a9 1d4ac 1 6e 1d4ae",
  "1d4b5 1 73 1d4b6 1d4b9 1 61 1d4bb 1d4cf 2 66 1d4be 1d4c2 2 69 1d4c6 1d4ce 2 71 1d4d0 1d4e9 1",
  "61 1d4ea 1d503 1 61 1d504 1d505 1 61 1d507 1d50a 1 64 1d50d 1d514 1 6a 1d516 1d51c 1 73 1d51e",
  "1d537 1 61 1d538 1d539 1 61 1d53b 1d53e 1 64 1d540 1d544 1 69 1d546 1d546 1 6f 1d54a 1d550 1",
  "73 1d552 1d56b 1 61 1d56c 1d585 1 61 1d586 1d59f 1 61 1d5a0 1d5b9 1 61 1d5ba 1d5d3 1 61 1d5d4",
  "1d5ed 1 61 1d5ee 1d607 1 61 1d608 1d621 1 61 1d622 1d63b 1 61 1d63c 1d655 1 61 1d656 1d66f 1",
  "61 1d670 1d689 1 61 1d68a 1d6a3 1 61 1d6a4 1d6a4 1 131 1d6a5 1d6a5 1 237 1d6a8 1d6b8 1 3b1",
  "1d6b9 1d6b9 1 3b8 1d6ba 1d6c0 1 3c3 1d6c1 1d6c1 1 2207 1d6c2 1d6d2 1 3b1 1d6d3 1d6d3 1 3c3",
  "1d6d4 1d6da 1 3c3 1d6db 1d6db 1 2202 1d6dc 1d6dc 1 3b5 1d6dd 1d6dd 1 3b8 1d6de 1d6de 1 3ba",
  "1d6df 1d6df 1 3c6 1d6e0 1d6e0 1 3c1 1d6e1 1d6e1 1 3c0 1d6e2 1d6f2 1 3b1 1d6f3 1d6f3 1 3b8",
  "1d6f4 1d6fa 1 3c3 1d6fb 1d6fb 1 2207 1d6fc 1d70c 1 3b1 1d70d 1d70d 1 3c3 1d70e 1d714 1 3c3",
  "1d715 1d715 1 2202 1d716 1d716 1 3b5 1d717 1d717 1 3b8 1d718 1d718 1 3ba 1d719 1d719 1 3c6",
  "1d71a 1d71a 1 3c1 1d71b 1d71b 1 3c0 1d71c 1d72c 1 3b1 1d72d 1d72d 1 3b8 1d72e 1d734 1 3c3",
  "1d735 1d735 1 2207 1d736 1d746 1 3b1 1d747 1d747 1 3c3 1d748 1d74e 1 3c3 1d74f 1d74f 1 2202",
  "1d750 1d750 1 3b5 1d751 1d751 1 3b8 1d752 1d752 1 3ba 1d753 1d753 1 3c6 1d754 1d754 1 3c1",
  "1d755 1d755 1 3c0 1d756 1d766 1 3b1 1d767 1d767 1 3b8 1d768 1d76e 1 3c3 1d76f 1d76f 1 2207",
  "1d770 1d780 1 3b1 1d781 1d781 1 3c3 1d782 1d788 1 3c3 1d789 1d789 1 2202 1d78a 1d78a 1 3b5",
  "1d78b 1d78b 1 3b8 1d78c 1d78c 1 3ba 1d78d 1d78d 1 3c6 1d78e 1d78e 1 3c1 1d78f 1d78f 1 3c0",
  "1d790 1d7a0 1 3b1 1d7a1 1d7a1 1 3b8 1d7a2 1d7a8 1 3c3 1d7a9 1d7a9 1 2207 1d7aa 1d7ba 1 3b1",
  "1d7bb 1d7bb 1 3c3 1d7bc 1d7c2 1 3c3 1d7c3 1d7c3 1 2202 1d7c4 1d7c4 1 3b5 1d7c5 1d7c5 1 3b8",
  "1d7c6 1d7c6 1 3ba 1d7c7 1d7c7 1 3c6 1d7c8 1d7c8 1 3c1 1d7c9 1d7c9 1 3c0 1d7ca 1d7ca 1 3dd",
  "1d7cb 1d7cb 1 3dd 1d7ce 1d7d7 1 30 1d7d8 1d7e1 1 30 1d7e2 1d7eb 1 30 1d7ec 1d7f5 1 30 1d7f6",
  "1d7ff 1 30 1e030 1e038 1 430 1e039 1e03b 1 43a 1e03c 1e046 1 43e 1e047 1e047 1 44b 1e048 1e049",
  "1 44d 1e04a 1e04a 1 a689 1e04b 1e04b 1 4d9 1e04c 1e04c 1 456 1e04d 1e04d 1 458 1e04e 1e04e 1",
  "4e9 1e04f 1e04f 1 4af 1e050 1e050 1 4cf 1e051 1e059 1 430 1e05a 1e05b 1 43a 1e05c 1e05d 1 43e",
  "1e05e 1e05e 1 441 1e05f 1e064 1 443 1e065 1e066 1 44a 1e067 1e067 1 491 1e068 1e068 1 456",
  "1e069 1e069 1 455 1e06a 1e06a 1 45f 1e06b 1e06b 1 4ab 1e06c 1e06c 1 a651 1e06d 1e06d 1 4b1",
  "1e900 1e921 1 1e922 1ee00 1ee01 1 627 1ee02 1ee02 1 62c 1ee03 1ee03 1 62f 1ee05 1ee05 1 648",
  "1ee06 1ee06 1 632 1ee07 1ee07 1 62d 1ee08 1ee08 1 637 1ee09 1ee09 1 64a 1ee0a 1ee0d 1 643",
  "1ee0e 1ee0e 1 633 1ee0f 1ee0f 1 639 1ee10 1ee10 1 641 1ee11 1ee11 1 635 1ee12 1ee12 1 642",
  "1ee13 1ee13 1 631 1ee14 1ee14 1 634 1ee15 1ee16 1 62a 1ee17 1ee17 1 62e 1ee18 1ee18 1 630",
  "1ee19 1ee19 1 636 1ee1a 1ee1a 1 638 1ee1b 1ee1b 1 63a 1ee1c 1ee1c 1 66e 1ee1d 1ee1d 1 6ba",
  "1ee1e 1ee1e 1 6a1 1ee1f 1ee1f 1 66f 1ee21 1ee21 1 628 1ee22 1ee22 1 62c 1ee24 1ee24 1 647",
  "1ee27 1ee27 1 62d 1ee29 1ee29 1 64a 1ee2a 1ee2d 1 643 1ee2e 1ee2e 1 633 1ee2f 1ee2f 1 639",
  "1ee30 1ee30 1 641 1ee31 1ee31 1 635 1ee32 1ee32 1 642 1ee34 1ee34 1 634 1ee35 1ee36 1 62a",
  "1ee37 1ee37 1 62e 1ee39 1ee39 1 636 1ee3b 1ee3b 1 63a 1ee42 1ee42 1 62c 1ee47 1ee47 1 62d",
  "1ee49 1ee49 1 64a 1ee4b 1ee4d 2 644 1ee4e 1ee4e 1 633 1ee4f 1ee4f 1 639 1ee51 1ee51 1 635",
  "1ee52 1ee52 1 642 1ee54 1ee54 1 634 1ee57 1ee57 1 62e 1ee59 1ee59 1 636 1ee5b 1ee5b 1 63a",
  "1ee5d 1ee5d 1 6ba 1ee5f 1ee5f 1 66f 1ee61 1ee61 1 628 1ee62 1ee62 1 62c 1ee64 1ee64 1 647",
  "1ee67 1ee67 1 62d 1ee68 1ee68 1 637 1ee69 1ee69 1 64a 1ee6a 1ee6c 2 643 1ee6d 1ee6d 1 646",
  "1ee6e 1ee6e 1 633 1ee6f 1ee6f 1 639 1ee70 1ee70 1 641 1ee71 1ee71 1 635 1ee72 1ee72 1 642",
  "1ee74 1ee74 1 634 1ee75 1ee76 1 62a 1ee77 1ee77 1 62e 1ee79 1ee79 1 636 1ee7a 1ee7a 1 638",
  "1ee7b 1ee7b 1 63a 1ee7c 1ee7c 1 66e 1ee7e 1ee7e 1 6a1 1ee80 1ee81 1 627 1ee82 1ee82 1 62c",
  "1ee83 1ee83 1 62f 1ee84 1ee85 1 647 1ee86 1ee86 1 632 1ee87 1ee87 1 62d 1ee88 1ee88 1 637",
  "1ee89 1ee89 1 64a 1ee8b 1ee8d 1 644 1ee8e 1ee8e 1 633 1ee8f 1ee8f 1 639 1ee90 1ee90 1 641",
  "1ee91 1ee91 1 635 1ee92 1ee92 1 642 1ee93 1ee93 1 631 1ee94 1ee94 1 634 1ee95 1ee96 1 62a",
  "1ee97 1ee97 1 62e 1ee98 1ee98 1 630 1ee99 1ee99 1 636 1ee9a 1ee9a 1 638 1ee9b 1ee9b 1 63a",
  "1eea1 1eea1 1 628 1eea2 1eea2 1 62c 1eea3 1eea3 1 62f 1eea5 1eea5 1 648 1eea6 1eea6 1 632",
  "1eea7 1eea7 1 62d 1eea8 1eea8 1 637 1eea9 1eea9 1 64a 1eeab 1eead 1 644 1eeae 1eeae 1 633",
  "1eeaf 1eeaf 1 639 1eeb0 1eeb0 1 641 1eeb1 1eeb1 1 635 1eeb2 1eeb2 1 642 1eeb3 1eeb3 1 631",
  "1eeb4 1eeb4 1 634 1eeb5 1eeb6 1 62a 1eeb7 1eeb7 1 62e 1eeb8 1eeb8 1 630 1eeb9 1eeb9 1 636",
  "1eeba 1eeba 1 638 1eebb 1eebb 1 63a 1f12b 1f12b 1 63 1f12c 1f12c 1 72 1f130 1f149 1 61 1f202",
  "1f202 1 30b5 1f210 1f210 1 624b 1f211 1f211 1 5b57 1f212 1f212 1 53cc 1f213 1f213 1 30c7 1f214",
  "1f214 1 4e8c 1f215 1f215 1 591a 1f216 1f216 1 89e3 1f217 1f217 1 5929 1f218 1f218 1 4ea4 1f219",
  "1f219 1 6620 1f21a 1f21a 1 7121 1f21b 1f21b 1 6599 1f21c 1f21c 1 524d 1f21d 1f21d 1 5f8c 1f21e",
  "1f21e 1 518d 1f21f 1f21f 1 65b0 1f220 1f220 1 521d 1f221 1f221 1 7d42 1f222 1f222 1 751f 1f223",
  "1f223 1 8ca9 1f224 1f224 1 58f0 1f225 1f225 1 5439 1f226 1f226 1 6f14 1f227 1f227 1 6295 1f228",
  "1f228 1 6355 1f229 1f229 1 4e00 1f22a 1f22a 1 4e09 1f22b 1f22b 1 904a 1f22c 1f22c 1 5de6 1f22d",
  "1f22d 1 4e2d 1f22e 1f22e 1 53f3 1f22f 1f22f 1 6307 1f230 1f230 1 8d70 1f231 1f231 1 6253 1f232",
  "1f232 1 7981 1f233 1f233 1 7a7a 1f234 1f234 1 5408 1f235 1f235 1 6e80 1f236 1f236 1 6709 1f237",
  "1f237 1 6708 1f238 1f238 1 7533 1f239 1f239 1 5272 1f23a 1f23a 1 55b6 1f23b 1f23b 1 914d 1f250",
  "1f250 1 5f97 1f251 1f251 1 53ef 1fbf0 1fbf9 1 30"]

structure Shift where
  first : Nat
  last : Nat
  step : Nat
  target : Nat
deriving Repr

def Shift.ofList : List Nat → List Shift
  | first :: last :: step :: target :: rest => ⟨first, last, step, target⟩ :: ofList rest
  | _ => []

def shifts : List Shift := Shift.ofList (listed shiftTable)

/-- What a run makes of a character that belongs to it. -/
def Shift.image? (shift : Shift) (code : Nat) : Option Nat :=
  if shift.first ≤ code ∧ code ≤ shift.last ∧ (code - shift.first) % shift.step = 0 then
    some (shift.target + (code - shift.first))
  else none

/-- Characters that become several, each with those and a zero at the end. -/
def expansionTable : List String := [
  "a8 20 308 0 af 20 304 0 b4 20 301 0 b8 20 327 0 bc 31 2044 34 0 bd 31 2044 32 0 be 33 2044 34",
  "0 130 69 307 0 132 69 6a 0 133 69 6a 0 13f 6c b7 0 140 6c b7 0 149 2bc 6e 0 1c4 64 17e 0 1c5",
  "64 17e 0 1c6 64 17e 0 1c7 6c 6a 0 1c8 6c 6a 0 1c9 6c 6a 0 1ca 6e 6a 0 1cb 6e 6a 0 1cc 6e 6a 0",
  "1f1 64 7a 0 1f2 64 7a 0 1f3 64 7a 0 2d8 20 306 0 2d9 20 307 0 2da 20 30a 0 2db 20 328 0 2dc 20",
  "303 0 2dd 20 30b 0 37a 20 3b9 0 384 20 301 0 385 20 308 301 0 587 565 582 0 675 627 674 0 676",
  "648 674 0 677 6c7 674 0 678 64a 674 0 e33 e4d e32 0 eb3 ecd eb2 0 edc eab e99 0 edd eab ea1 0",
  "f77 fb2 f71 f80 0 f79 fb3 f71 f80 0 1e9a 61 2be 0 1f80 1f00 3b9 0 1f81 1f01 3b9 0 1f82 1f02",
  "3b9 0 1f83 1f03 3b9 0 1f84 1f04 3b9 0 1f85 1f05 3b9 0 1f86 1f06 3b9 0 1f87 1f07 3b9 0 1f88",
  "1f00 3b9 0 1f89 1f01 3b9 0 1f8a 1f02 3b9 0 1f8b 1f03 3b9 0 1f8c 1f04 3b9 0 1f8d 1f05 3b9 0",
  "1f8e 1f06 3b9 0 1f8f 1f07 3b9 0 1f90 1f20 3b9 0 1f91 1f21 3b9 0 1f92 1f22 3b9 0 1f93 1f23 3b9",
  "0 1f94 1f24 3b9 0 1f95 1f25 3b9 0 1f96 1f26 3b9 0 1f97 1f27 3b9 0 1f98 1f20 3b9 0 1f99 1f21",
  "3b9 0 1f9a 1f22 3b9 0 1f9b 1f23 3b9 0 1f9c 1f24 3b9 0 1f9d 1f25 3b9 0 1f9e 1f26 3b9 0 1f9f",
  "1f27 3b9 0 1fa0 1f60 3b9 0 1fa1 1f61 3b9 0 1fa2 1f62 3b9 0 1fa3 1f63 3b9 0 1fa4 1f64 3b9 0",
  "1fa5 1f65 3b9 0 1fa6 1f66 3b9 0 1fa7 1f67 3b9 0 1fa8 1f60 3b9 0 1fa9 1f61 3b9 0 1faa 1f62 3b9",
  "0 1fab 1f63 3b9 0 1fac 1f64 3b9 0 1fad 1f65 3b9 0 1fae 1f66 3b9 0 1faf 1f67 3b9 0 1fb2 1f70",
  "3b9 0 1fb3 3b1 3b9 0 1fb4 3ac 3b9 0 1fb7 1fb6 3b9 0 1fbc 3b1 3b9 0 1fbd 20 313 0 1fbf 20 313 0",
  "1fc0 20 342 0 1fc1 20 308 342 0 1fc2 1f74 3b9 0 1fc3 3b7 3b9 0 1fc4 3ae 3b9 0 1fc7 1fc6 3b9 0",
  "1fcc 3b7 3b9 0 1fcd 20 313 300 0 1fce 20 313 301 0 1fcf 20 313 342 0 1fdd 20 314 300 0 1fde 20",
  "314 301 0 1fdf 20 314 342 0 1fed 20 308 300 0 1fee 20 308 301 0 1ff2 1f7c 3b9 0 1ff3 3c9 3b9 0",
  "1ff4 3ce 3b9 0 1ff7 1ff6 3b9 0 1ffc 3c9 3b9 0 1ffd 20 301 0 1ffe 20 314 0 2017 20 333 0 2033",
  "2032 2032 0 2034 2032 2032 2032 0 2036 2035 2035 0 2037 2035 2035 2035 0 203c 21 21 0 203e 20",
  "305 0 2047 3f 3f 0 2048 3f 21 0 2049 21 3f 0 2057 2032 2032 2032 2032 0 20a8 72 73 0 2100 61",
  "2f 63 0 2101 61 2f 73 0 2103 b0 63 0 2105 63 2f 6f 0 2106 63 2f 75 0 2109 b0 66 0 2116 6e 6f 0",
  "2120 73 6d 0 2121 74 65 6c 0 2122 74 6d 0 213b 66 61 78 0 2150 31 2044 37 0 2151 31 2044 39 0",
  "2152 31 2044 31 30 0 2153 31 2044 33 0 2154 32 2044 33 0 2155 31 2044 35 0 2156 32 2044 35 0",
  "2157 33 2044 35 0 2158 34 2044 35 0 2159 31 2044 36 0 215a 35 2044 36 0 215b 31 2044 38 0 215c",
  "33 2044 38 0 215d 35 2044 38 0 215e 37 2044 38 0 215f 31 2044 0 2161 69 69 0 2162 69 69 69 0",
  "2163 69 76 0 2165 76 69 0 2166 76 69 69 0 2167 76 69 69 69 0 2168 69 78 0 216a 78 69 0 216b 78",
  "69 69 0 2171 69 69 0 2172 69 69 69 0 2173 69 76 0 2175 76 69 0 2176 76 69 69 0 2177 76 69 69",
  "69 0 2178 69 78 0 217a 78 69 0 217b 78 69 69 0 2189 30 2044 33 0 222c 222b 222b 0 222d 222b",
  "222b 222b 0 222f 222e 222e 0 2230 222e 222e 222e 0 2469 31 30 0 246a 31 31 0 246b 31 32 0 246c",
  "31 33 0 246d 31 34 0 246e 31 35 0 246f 31 36 0 2470 31 37 0 2471 31 38 0 2472 31 39 0 2473 32",
  "30 0 2474 28 31 29 0 2475 28 32 29 0 2476 28 33 29 0 2477 28 34 29 0 2478 28 35 29 0 2479 28",
  "36 29 0 247a 28 37 29 0 247b 28 38 29 0 247c 28 39 29 0 247d 28 31 30 29 0 247e 28 31 31 29 0",
  "247f 28 31 32 29 0 2480 28 31 33 29 0 2481 28 31 34 29 0 2482 28 31 35 29 0 2483 28 31 36 29 0",
  "2484 28 31 37 29 0 2485 28 31 38 29 0 2486 28 31 39 29 0 2487 28 32 30 29 0 249c 28 61 29 0",
  "249d 28 62 29 0 249e 28 63 29 0 249f 28 64 29 0 24a0 28 65 29 0 24a1 28 66 29 0 24a2 28 67 29",
  "0 24a3 28 68 29 0 24a4 28 69 29 0 24a5 28 6a 29 0 24a6 28 6b 29 0 24a7 28 6c 29 0 24a8 28 6d",
  "29 0 24a9 28 6e 29 0 24aa 28 6f 29 0 24ab 28 70 29 0 24ac 28 71 29 0 24ad 28 72 29 0 24ae 28",
  "73 29 0 24af 28 74 29 0 24b0 28 75 29 0 24b1 28 76 29 0 24b2 28 77 29 0 24b3 28 78 29 0 24b4",
  "28 79 29 0 24b5 28 7a 29 0 2a0c 222b 222b 222b 222b 0 2a74 3a 3a 3d 0 2a75 3d 3d 0 2a76 3d 3d",
  "3d 0 309b 20 3099 0 309c 20 309a 0 309f 3088 308a 0 30ff 30b3 30c8 0 3200 28 1100 29 0 3201 28",
  "1102 29 0 3202 28 1103 29 0 3203 28 1105 29 0 3204 28 1106 29 0 3205 28 1107 29 0 3206 28 1109",
  "29 0 3207 28 110b 29 0 3208 28 110c 29 0 3209 28 110e 29 0 320a 28 110f 29 0 320b 28 1110 29 0",
  "320c 28 1111 29 0 320d 28 1112 29 0 320e 28 ac00 29 0 320f 28 b098 29 0 3210 28 b2e4 29 0 3211",
  "28 b77c 29 0 3212 28 b9c8 29 0 3213 28 bc14 29 0 3214 28 c0ac 29 0 3215 28 c544 29 0 3216 28",
  "c790 29 0 3217 28 cc28 29 0 3218 28 ce74 29 0 3219 28 d0c0 29 0 321a 28 d30c 29 0 321b 28 d558",
  "29 0 321c 28 c8fc 29 0 321d 28 c624 c804 29 0 321e 28 c624 d6c4 29 0 3220 28 4e00 29 0 3221 28",
  "4e8c 29 0 3222 28 4e09 29 0 3223 28 56db 29 0 3224 28 4e94 29 0 3225 28 516d 29 0 3226 28 4e03",
  "29 0 3227 28 516b 29 0 3228 28 4e5d 29 0 3229 28 5341 29 0 322a 28 6708 29 0 322b 28 706b 29 0",
  "322c 28 6c34 29 0 322d 28 6728 29 0 322e 28 91d1 29 0 322f 28 571f 29 0 3230 28 65e5 29 0 3231",
  "28 682a 29 0 3232 28 6709 29 0 3233 28 793e 29 0 3234 28 540d 29 0 3235 28 7279 29 0 3236 28",
  "8ca1 29 0 3237 28 795d 29 0 3238 28 52b4 29 0 3239 28 4ee3 29 0 323a 28 547c 29 0 323b 28 5b66",
  "29 0 323c 28 76e3 29 0 323d 28 4f01 29 0 323e 28 8cc7 29 0 323f 28 5354 29 0 3240 28 796d 29 0",
  "3241 28 4f11 29 0 3242 28 81ea 29 0 3243 28 81f3 29 0 3250 70 74 65 0 3251 32 31 0 3252 32 32",
  "0 3253 32 33 0 3254 32 34 0 3255 32 35 0 3256 32 36 0 3257 32 37 0 3258 32 38 0 3259 32 39 0",
  "325a 33 30 0 325b 33 31 0 325c 33 32 0 325d 33 33 0 325e 33 34 0 325f 33 35 0 327c cc38 ace0 0",
  "327d c8fc c758 0 32b1 33 36 0 32b2 33 37 0 32b3 33 38 0 32b4 33 39 0 32b5 34 30 0 32b6 34 31 0",
  "32b7 34 32 0 32b8 34 33 0 32b9 34 34 0 32ba 34 35 0 32bb 34 36 0 32bc 34 37 0 32bd 34 38 0",
  "32be 34 39 0 32bf 35 30 0 32c0 31 6708 0 32c1 32 6708 0 32c2 33 6708 0 32c3 34 6708 0 32c4 35",
  "6708 0 32c5 36 6708 0 32c6 37 6708 0 32c7 38 6708 0 32c8 39 6708 0 32c9 31 30 6708 0 32ca 31",
  "31 6708 0 32cb 31 32 6708 0 32cc 68 67 0 32cd 65 72 67 0 32ce 65 76 0 32cf 6c 74 64 0 32ff",
  "4ee4 548c 0 3300 30a2 30d1 30fc 30c8 0 3301 30a2 30eb 30d5 30a1 0 3302 30a2 30f3 30da 30a2 0",
  "3303 30a2 30fc 30eb 0 3304 30a4 30cb 30f3 30b0 0 3305 30a4 30f3 30c1 0 3306 30a6 30a9 30f3 0",
  "3307 30a8 30b9 30af 30fc 30c9 0 3308 30a8 30fc 30ab 30fc 0 3309 30aa 30f3 30b9 0 330a 30aa",
  "30fc 30e0 0 330b 30ab 30a4 30ea 0 330c 30ab 30e9 30c3 30c8 0 330d 30ab 30ed 30ea 30fc 0 330e",
  "30ac 30ed 30f3 0 330f 30ac 30f3 30de 0 3310 30ae 30ac 0 3311 30ae 30cb 30fc 0 3312 30ad 30e5",
  "30ea 30fc 0 3313 30ae 30eb 30c0 30fc 0 3314 30ad 30ed 0 3315 30ad 30ed 30b0 30e9 30e0 0 3316",
  "30ad 30ed 30e1 30fc 30c8 30eb 0 3317 30ad 30ed 30ef 30c3 30c8 0 3318 30b0 30e9 30e0 0 3319",
  "30b0 30e9 30e0 30c8 30f3 0 331a 30af 30eb 30bc 30a4 30ed 0 331b 30af 30ed 30fc 30cd 0 331c",
  "30b1 30fc 30b9 0 331d 30b3 30eb 30ca 0 331e 30b3 30fc 30dd 0 331f 30b5 30a4 30af 30eb 0 3320",
  "30b5 30f3 30c1 30fc 30e0 0 3321 30b7 30ea 30f3 30b0 0 3322 30bb 30f3 30c1 0 3323 30bb 30f3",
  "30c8 0 3324 30c0 30fc 30b9 0 3325 30c7 30b7 0 3326 30c9 30eb 0 3327 30c8 30f3 0 3328 30ca 30ce",
  "0 3329 30ce 30c3 30c8 0 332a 30cf 30a4 30c4 0 332b 30d1 30fc 30bb 30f3 30c8 0 332c 30d1 30fc",
  "30c4 0 332d 30d0 30fc 30ec 30eb 0 332e 30d4 30a2 30b9 30c8 30eb 0 332f 30d4 30af 30eb 0 3330",
  "30d4 30b3 0 3331 30d3 30eb 0 3332 30d5 30a1 30e9 30c3 30c9 0 3333 30d5 30a3 30fc 30c8 0 3334",
  "30d6 30c3 30b7 30a7 30eb 0 3335 30d5 30e9 30f3 0 3336 30d8 30af 30bf 30fc 30eb 0 3337 30da",
  "30bd 0 3338 30da 30cb 30d2 0 3339 30d8 30eb 30c4 0 333a 30da 30f3 30b9 0 333b 30da 30fc 30b8 0",
  "333c 30d9 30fc 30bf 0 333d 30dd 30a4 30f3 30c8 0 333e 30dc 30eb 30c8 0 333f 30db 30f3 0 3340",
  "30dd 30f3 30c9 0 3341 30db 30fc 30eb 0 3342 30db 30fc 30f3 0 3343 30de 30a4 30af 30ed 0 3344",
  "30de 30a4 30eb 0 3345 30de 30c3 30cf 0 3346 30de 30eb 30af 0 3347 30de 30f3 30b7 30e7 30f3 0",
  "3348 30df 30af 30ed 30f3 0 3349 30df 30ea 0 334a 30df 30ea 30d0 30fc 30eb 0 334b 30e1 30ac 0",
  "334c 30e1 30ac 30c8 30f3 0 334d 30e1 30fc 30c8 30eb 0 334e 30e4 30fc 30c9 0 334f 30e4 30fc",
  "30eb 0 3350 30e6 30a2 30f3 0 3351 30ea 30c3 30c8 30eb 0 3352 30ea 30e9 0 3353 30eb 30d4 30fc 0",
  "3354 30eb 30fc 30d6 30eb 0 3355 30ec 30e0 0 3356 30ec 30f3 30c8 30b2 30f3 0 3357 30ef 30c3",
  "30c8 0 3358 30 70b9 0 3359 31 70b9 0 335a 32 70b9 0 335b 33 70b9 0 335c 34 70b9 0 335d 35 70b9",
  "0 335e 36 70b9 0 335f 37 70b9 0 3360 38 70b9 0 3361 39 70b9 0 3362 31 30 70b9 0 3363 31 31",
  "70b9 0 3364 31 32 70b9 0 3365 31 33 70b9 0 3366 31 34 70b9 0 3367 31 35 70b9 0 3368 31 36 70b9",
  "0 3369 31 37 70b9 0 336a 31 38 70b9 0 336b 31 39 70b9 0 336c 32 30 70b9 0 336d 32 31 70b9 0",
  "336e 32 32 70b9 0 336f 32 33 70b9 0 3370 32 34 70b9 0 3371 68 70 61 0 3372 64 61 0 3373 61 75",
  "0 3374 62 61 72 0 3375 6f 76 0 3376 70 63 0 3377 64 6d 0 3378 64 6d 32 0 3379 64 6d 33 0 337a",
  "69 75 0 337b 5e73 6210 0 337c 662d 548c 0 337d 5927 6b63 0 337e 660e 6cbb 0 337f 682a 5f0f",
  "4f1a 793e 0 3380 70 61 0 3381 6e 61 0 3382 3bc 61 0 3383 6d 61 0 3384 6b 61 0 3385 6b 62 0",
  "3386 6d 62 0 3387 67 62 0 3388 63 61 6c 0 3389 6b 63 61 6c 0 338a 70 66 0 338b 6e 66 0 338c",
  "3bc 66 0 338d 3bc 67 0 338e 6d 67 0 338f 6b 67 0 3390 68 7a 0 3391 6b 68 7a 0 3392 6d 68 7a 0",
  "3393 67 68 7a 0 3394 74 68 7a 0 3395 3bc 6c 0 3396 6d 6c 0 3397 64 6c 0 3398 6b 6c 0 3399 66",
  "6d 0 339a 6e 6d 0 339b 3bc 6d 0 339c 6d 6d 0 339d 63 6d 0 339e 6b 6d 0 339f 6d 6d 32 0 33a0 63",
  "6d 32 0 33a1 6d 32 0 33a2 6b 6d 32 0 33a3 6d 6d 33 0 33a4 63 6d 33 0 33a5 6d 33 0 33a6 6b 6d",
  "33 0 33a7 6d 2215 73 0 33a8 6d 2215 73 32 0 33a9 70 61 0 33aa 6b 70 61 0 33ab 6d 70 61 0 33ac",
  "67 70 61 0 33ad 72 61 64 0 33ae 72 61 64 2215 73 0 33af 72 61 64 2215 73 32 0 33b0 70 73 0",
  "33b1 6e 73 0 33b2 3bc 73 0 33b3 6d 73 0 33b4 70 76 0 33b5 6e 76 0 33b6 3bc 76 0 33b7 6d 76 0",
  "33b8 6b 76 0 33b9 6d 76 0 33ba 70 77 0 33bb 6e 77 0 33bc 3bc 77 0 33bd 6d 77 0 33be 6b 77 0",
  "33bf 6d 77 0 33c0 6b 3c9 0 33c1 6d 3c9 0 33c3 62 71 0 33c4 63 63 0 33c5 63 64 0 33c6 63 2215",
  "6b 67 0 33c8 64 62 0 33c9 67 79 0 33ca 68 61 0 33cb 68 70 0 33cc 69 6e 0 33cd 6b 6b 0 33ce 6b",
  "6d 0 33cf 6b 74 0 33d0 6c 6d 0 33d1 6c 6e 0 33d2 6c 6f 67 0 33d3 6c 78 0 33d4 6d 62 0 33d5 6d",
  "69 6c 0 33d6 6d 6f 6c 0 33d7 70 68 0 33d9 70 70 6d 0 33da 70 72 0 33db 73 72 0 33dc 73 76 0",
  "33dd 77 62 0 33de 76 2215 6d 0 33df 61 2215 6d 0 33e0 31 65e5 0 33e1 32 65e5 0 33e2 33 65e5 0",
  "33e3 34 65e5 0 33e4 35 65e5 0 33e5 36 65e5 0 33e6 37 65e5 0 33e7 38 65e5 0 33e8 39 65e5 0 33e9",
  "31 30 65e5 0 33ea 31 31 65e5 0 33eb 31 32 65e5 0 33ec 31 33 65e5 0 33ed 31 34 65e5 0 33ee 31",
  "35 65e5 0 33ef 31 36 65e5 0 33f0 31 37 65e5 0 33f1 31 38 65e5 0 33f2 31 39 65e5 0 33f3 32 30",
  "65e5 0 33f4 32 31 65e5 0 33f5 32 32 65e5 0 33f6 32 33 65e5 0 33f7 32 34 65e5 0 33f8 32 35 65e5",
  "0 33f9 32 36 65e5 0 33fa 32 37 65e5 0 33fb 32 38 65e5 0 33fc 32 39 65e5 0 33fd 33 30 65e5 0",
  "33fe 33 31 65e5 0 33ff 67 61 6c 0 fb00 66 66 0 fb01 66 69 0 fb02 66 6c 0 fb03 66 66 69 0 fb04",
  "66 66 6c 0 fb05 73 74 0 fb06 73 74 0 fb13 574 576 0 fb14 574 565 0 fb15 574 56b 0 fb16 57e 576",
  "0 fb17 574 56d 0 fb4f 5d0 5dc 0 fbdd 6c7 674 0 fbea 626 627 0 fbeb 626 627 0 fbec 626 6d5 0",
  "fbed 626 6d5 0 fbee 626 648 0 fbef 626 648 0 fbf0 626 6c7 0 fbf1 626 6c7 0 fbf2 626 6c6 0 fbf3",
  "626 6c6 0 fbf4 626 6c8 0 fbf5 626 6c8 0 fbf6 626 6d0 0 fbf7 626 6d0 0 fbf8 626 6d0 0 fbf9 626",
  "649 0 fbfa 626 649 0 fbfb 626 649 0 fc00 626 62c 0 fc01 626 62d 0 fc02 626 645 0 fc03 626 649",
  "0 fc04 626 64a 0 fc05 628 62c 0 fc06 628 62d 0 fc07 628 62e 0 fc08 628 645 0 fc09 628 649 0",
  "fc0a 628 64a 0 fc0b 62a 62c 0 fc0c 62a 62d 0 fc0d 62a 62e 0 fc0e 62a 645 0 fc0f 62a 649 0 fc10",
  "62a 64a 0 fc11 62b 62c 0 fc12 62b 645 0 fc13 62b 649 0 fc14 62b 64a 0 fc15 62c 62d 0 fc16 62c",
  "645 0 fc17 62d 62c 0 fc18 62d 645 0 fc19 62e 62c 0 fc1a 62e 62d 0 fc1b 62e 645 0 fc1c 633 62c",
  "0 fc1d 633 62d 0 fc1e 633 62e 0 fc1f 633 645 0 fc20 635 62d 0 fc21 635 645 0 fc22 636 62c 0",
  "fc23 636 62d 0 fc24 636 62e 0 fc25 636 645 0 fc26 637 62d 0 fc27 637 645 0 fc28 638 645 0 fc29",
  "639 62c 0 fc2a 639 645 0 fc2b 63a 62c 0 fc2c 63a 645 0 fc2d 641 62c 0 fc2e 641 62d 0 fc2f 641",
  "62e 0 fc30 641 645 0 fc31 641 649 0 fc32 641 64a 0 fc33 642 62d 0 fc34 642 645 0 fc35 642 649",
  "0 fc36 642 64a 0 fc37 643 627 0 fc38 643 62c 0 fc39 643 62d 0 fc3a 643 62e 0 fc3b 643 644 0",
  "fc3c 643 645 0 fc3d 643 649 0 fc3e 643 64a 0 fc3f 644 62c 0 fc40 644 62d 0 fc41 644 62e 0 fc42",
  "644 645 0 fc43 644 649 0 fc44 644 64a 0 fc45 645 62c 0 fc46 645 62d 0 fc47 645 62e 0 fc48 645",
  "645 0 fc49 645 649 0 fc4a 645 64a 0 fc4b 646 62c 0 fc4c 646 62d 0 fc4d 646 62e 0 fc4e 646 645",
  "0 fc4f 646 649 0 fc50 646 64a 0 fc51 647 62c 0 fc52 647 645 0 fc53 647 649 0 fc54 647 64a 0",
  "fc55 64a 62c 0 fc56 64a 62d 0 fc57 64a 62e 0 fc58 64a 645 0 fc59 64a 649 0 fc5a 64a 64a 0 fc5b",
  "630 670 0 fc5c 631 670 0 fc5d 649 670 0 fc5e 20 64c 651 0 fc5f 20 64d 651 0 fc60 20 64e 651 0",
  "fc61 20 64f 651 0 fc62 20 650 651 0 fc63 20 651 670 0 fc64 626 631 0 fc65 626 632 0 fc66 626",
  "645 0 fc67 626 646 0 fc68 626 649 0 fc69 626 64a 0 fc6a 628 631 0 fc6b 628 632 0 fc6c 628 645",
  "0 fc6d 628 646 0 fc6e 628 649 0 fc6f 628 64a 0 fc70 62a 631 0 fc71 62a 632 0 fc72 62a 645 0",
  "fc73 62a 646 0 fc74 62a 649 0 fc75 62a 64a 0 fc76 62b 631 0 fc77 62b 632 0 fc78 62b 645 0 fc79",
  "62b 646 0 fc7a 62b 649 0 fc7b 62b 64a 0 fc7c 641 649 0 fc7d 641 64a 0 fc7e 642 649 0 fc7f 642",
  "64a 0 fc80 643 627 0 fc81 643 644 0 fc82 643 645 0 fc83 643 649 0 fc84 643 64a 0 fc85 644 645",
  "0 fc86 644 649 0 fc87 644 64a 0 fc88 645 627 0 fc89 645 645 0 fc8a 646 631 0 fc8b 646 632 0",
  "fc8c 646 645 0 fc8d 646 646 0 fc8e 646 649 0 fc8f 646 64a 0 fc90 649 670 0 fc91 64a 631 0 fc92",
  "64a 632 0 fc93 64a 645 0 fc94 64a 646 0 fc95 64a 649 0 fc96 64a 64a 0 fc97 626 62c 0 fc98 626",
  "62d 0 fc99 626 62e 0 fc9a 626 645 0 fc9b 626 647 0 fc9c 628 62c 0 fc9d 628 62d 0 fc9e 628 62e",
  "0 fc9f 628 645 0 fca0 628 647 0 fca1 62a 62c 0 fca2 62a 62d 0 fca3 62a 62e 0 fca4 62a 645 0",
  "fca5 62a 647 0 fca6 62b 645 0 fca7 62c 62d 0 fca8 62c 645 0 fca9 62d 62c 0 fcaa 62d 645 0 fcab",
  "62e 62c 0 fcac 62e 645 0 fcad 633 62c 0 fcae 633 62d 0 fcaf 633 62e 0 fcb0 633 645 0 fcb1 635",
  "62d 0 fcb2 635 62e 0 fcb3 635 645 0 fcb4 636 62c 0 fcb5 636 62d 0 fcb6 636 62e 0 fcb7 636 645",
  "0 fcb8 637 62d 0 fcb9 638 645 0 fcba 639 62c 0 fcbb 639 645 0 fcbc 63a 62c 0 fcbd 63a 645 0",
  "fcbe 641 62c 0 fcbf 641 62d 0 fcc0 641 62e 0 fcc1 641 645 0 fcc2 642 62d 0 fcc3 642 645 0 fcc4",
  "643 62c 0 fcc5 643 62d 0 fcc6 643 62e 0 fcc7 643 644 0 fcc8 643 645 0 fcc9 644 62c 0 fcca 644",
  "62d 0 fccb 644 62e 0 fccc 644 645 0 fccd 644 647 0 fcce 645 62c 0 fccf 645 62d 0 fcd0 645 62e",
  "0 fcd1 645 645 0 fcd2 646 62c 0 fcd3 646 62d 0 fcd4 646 62e 0 fcd5 646 645 0 fcd6 646 647 0",
  "fcd7 647 62c 0 fcd8 647 645 0 fcd9 647 670 0 fcda 64a 62c 0 fcdb 64a 62d 0 fcdc 64a 62e 0 fcdd",
  "64a 645 0 fcde 64a 647 0 fcdf 626 645 0 fce0 626 647 0 fce1 628 645 0 fce2 628 647 0 fce3 62a",
  "645 0 fce4 62a 647 0 fce5 62b 645 0 fce6 62b 647 0 fce7 633 645 0 fce8 633 647 0 fce9 634 645",
  "0 fcea 634 647 0 fceb 643 644 0 fcec 643 645 0 fced 644 645 0 fcee 646 645 0 fcef 646 647 0",
  "fcf0 64a 645 0 fcf1 64a 647 0 fcf2 640 64e 651 0 fcf3 640 64f 651 0 fcf4 640 650 651 0 fcf5",
  "637 649 0 fcf6 637 64a 0 fcf7 639 649 0 fcf8 639 64a 0 fcf9 63a 649 0 fcfa 63a 64a 0 fcfb 633",
  "649 0 fcfc 633 64a 0 fcfd 634 649 0 fcfe 634 64a 0 fcff 62d 649 0 fd00 62d 64a 0 fd01 62c 649",
  "0 fd02 62c 64a 0 fd03 62e 649 0 fd04 62e 64a 0 fd05 635 649 0 fd06 635 64a 0 fd07 636 649 0",
  "fd08 636 64a 0 fd09 634 62c 0 fd0a 634 62d 0 fd0b 634 62e 0 fd0c 634 645 0 fd0d 634 631 0 fd0e",
  "633 631 0 fd0f 635 631 0 fd10 636 631 0 fd11 637 649 0 fd12 637 64a 0 fd13 639 649 0 fd14 639",
  "64a 0 fd15 63a 649 0 fd16 63a 64a 0 fd17 633 649 0 fd18 633 64a 0 fd19 634 649 0 fd1a 634 64a",
  "0 fd1b 62d 649 0 fd1c 62d 64a 0 fd1d 62c 649 0 fd1e 62c 64a 0 fd1f 62e 649 0 fd20 62e 64a 0",
  "fd21 635 649 0 fd22 635 64a 0 fd23 636 649 0 fd24 636 64a 0 fd25 634 62c 0 fd26 634 62d 0 fd27",
  "634 62e 0 fd28 634 645 0 fd29 634 631 0 fd2a 633 631 0 fd2b 635 631 0 fd2c 636 631 0 fd2d 634",
  "62c 0 fd2e 634 62d 0 fd2f 634 62e 0 fd30 634 645 0 fd31 633 647 0 fd32 634 647 0 fd33 637 645",
  "0 fd34 633 62c 0 fd35 633 62d 0 fd36 633 62e 0 fd37 634 62c 0 fd38 634 62d 0 fd39 634 62e 0",
  "fd3a 637 645 0 fd3b 638 645 0 fd3c 627 64b 0 fd3d 627 64b 0 fd50 62a 62c 645 0 fd51 62a 62d",
  "62c 0 fd52 62a 62d 62c 0 fd53 62a 62d 645 0 fd54 62a 62e 645 0 fd55 62a 645 62c 0 fd56 62a 645",
  "62d 0 fd57 62a 645 62e 0 fd58 62c 645 62d 0 fd59 62c 645 62d 0 fd5a 62d 645 64a 0 fd5b 62d 645",
  "649 0 fd5c 633 62d 62c 0 fd5d 633 62c 62d 0 fd5e 633 62c 649 0 fd5f 633 645 62d 0 fd60 633 645",
  "62d 0 fd61 633 645 62c 0 fd62 633 645 645 0 fd63 633 645 645 0 fd64 635 62d 62d 0 fd65 635 62d",
  "62d 0 fd66 635 645 645 0 fd67 634 62d 645 0 fd68 634 62d 645 0 fd69 634 62c 64a 0 fd6a 634 645",
  "62e 0 fd6b 634 645 62e 0 fd6c 634 645 645 0 fd6d 634 645 645 0 fd6e 636 62d 649 0 fd6f 636 62e",
  "645 0 fd70 636 62e 645 0 fd71 637 645 62d 0 fd72 637 645 62d 0 fd73 637 645 645 0 fd74 637 645",
  "64a 0 fd75 639 62c 645 0 fd76 639 645 645 0 fd77 639 645 645 0 fd78 639 645 649 0 fd79 63a 645",
  "645 0 fd7a 63a 645 64a 0 fd7b 63a 645 649 0 fd7c 641 62e 645 0 fd7d 641 62e 645 0 fd7e 642 645",
  "62d 0 fd7f 642 645 645 0 fd80 644 62d 645 0 fd81 644 62d 64a 0 fd82 644 62d 649 0 fd83 644 62c",
  "62c 0 fd84 644 62c 62c 0 fd85 644 62e 645 0 fd86 644 62e 645 0 fd87 644 645 62d 0 fd88 644 645",
  "62d 0 fd89 645 62d 62c 0 fd8a 645 62d 645 0 fd8b 645 62d 64a 0 fd8c 645 62c 62d 0 fd8d 645 62c",
  "645 0 fd8e 645 62e 62c 0 fd8f 645 62e 645 0 fd92 645 62c 62e 0 fd93 647 645 62c 0 fd94 647 645",
  "645 0 fd95 646 62d 645 0 fd96 646 62d 649 0 fd97 646 62c 645 0 fd98 646 62c 645 0 fd99 646 62c",
  "649 0 fd9a 646 645 64a 0 fd9b 646 645 649 0 fd9c 64a 645 645 0 fd9d 64a 645 645 0 fd9e 628 62e",
  "64a 0 fd9f 62a 62c 64a 0 fda0 62a 62c 649 0 fda1 62a 62e 64a 0 fda2 62a 62e 649 0 fda3 62a 645",
  "64a 0 fda4 62a 645 649 0 fda5 62c 645 64a 0 fda6 62c 62d 649 0 fda7 62c 645 649 0 fda8 633 62e",
  "649 0 fda9 635 62d 64a 0 fdaa 634 62d 64a 0 fdab 636 62d 64a 0 fdac 644 62c 64a 0 fdad 644 645",
  "64a 0 fdae 64a 62d 64a 0 fdaf 64a 62c 64a 0 fdb0 64a 645 64a 0 fdb1 645 645 64a 0 fdb2 642 645",
  "64a 0 fdb3 646 62d 64a 0 fdb4 642 645 62d 0 fdb5 644 62d 645 0 fdb6 639 645 64a 0 fdb7 643 645",
  "64a 0 fdb8 646 62c 62d 0 fdb9 645 62e 64a 0 fdba 644 62c 645 0 fdbb 643 645 645 0 fdbc 644 62c",
  "645 0 fdbd 646 62c 62d 0 fdbe 62c 62d 64a 0 fdbf 62d 62c 64a 0 fdc0 645 62c 64a 0 fdc1 641 645",
  "64a 0 fdc2 628 62d 64a 0 fdc3 643 645 645 0 fdc4 639 62c 645 0 fdc5 635 645 645 0 fdc6 633 62e",
  "64a 0 fdc7 646 62c 64a 0 fdf0 635 644 6d2 0 fdf1 642 644 6d2 0 fdf2 627 644 644 647 0 fdf3 627",
  "643 628 631 0 fdf4 645 62d 645 62f 0 fdf5 635 644 639 645 0 fdf6 631 633 648 644 0 fdf7 639",
  "644 64a 647 0 fdf8 648 633 644 645 0 fdf9 635 644 649 0 fdfa 635 644 649 20 627 644 644 647 20",
  "639 644 64a 647 20 648 633 644 645 0 fdfb 62c 644 20 62c 644 627 644 647 0 fdfc 631 6cc 627",
  "644 0 fe49 20 305 0 fe4a 20 305 0 fe4b 20 305 0 fe4c 20 305 0 fe70 20 64b 0 fe71 640 64b 0",
  "fe72 20 64c 0 fe74 20 64d 0 fe76 20 64e 0 fe77 640 64e 0 fe78 20 64f 0 fe79 640 64f 0 fe7a 20",
  "650 0 fe7b 640 650 0 fe7c 20 651 0 fe7d 640 651 0 fe7e 20 652 0 fe7f 640 652 0 fef5 644 622 0",
  "fef6 644 622 0 fef7 644 623 0 fef8 644 623 0 fef9 644 625 0 fefa 644 625 0 fefb 644 627 0 fefc",
  "644 627 0 ffe3 20 304 0 1f101 30 2c 0 1f102 31 2c 0 1f103 32 2c 0 1f104 33 2c 0 1f105 34 2c 0",
  "1f106 35 2c 0 1f107 36 2c 0 1f108 37 2c 0 1f109 38 2c 0 1f10a 39 2c 0 1f110 28 61 29 0 1f111",
  "28 62 29 0 1f112 28 63 29 0 1f113 28 64 29 0 1f114 28 65 29 0 1f115 28 66 29 0 1f116 28 67 29",
  "0 1f117 28 68 29 0 1f118 28 69 29 0 1f119 28 6a 29 0 1f11a 28 6b 29 0 1f11b 28 6c 29 0 1f11c",
  "28 6d 29 0 1f11d 28 6e 29 0 1f11e 28 6f 29 0 1f11f 28 70 29 0 1f120 28 71 29 0 1f121 28 72 29",
  "0 1f122 28 73 29 0 1f123 28 74 29 0 1f124 28 75 29 0 1f125 28 76 29 0 1f126 28 77 29 0 1f127",
  "28 78 29 0 1f128 28 79 29 0 1f129 28 7a 29 0 1f12a 3014 73 3015 0 1f12d 63 64 0 1f12e 77 7a 0",
  "1f14a 68 76 0 1f14b 6d 76 0 1f14c 73 64 0 1f14d 73 73 0 1f14e 70 70 76 0 1f14f 77 63 0 1f16a",
  "6d 63 0 1f16b 6d 64 0 1f16c 6d 72 0 1f190 64 6a 0 1f200 307b 304b 0 1f201 30b3 30b3 0 1f240",
  "3014 672c 3015 0 1f241 3014 4e09 3015 0 1f242 3014 4e8c 3015 0 1f243 3014 5b89 3015 0 1f244",
  "3014 70b9 3015 0 1f245 3014 6253 3015 0 1f246 3014 76d7 3015 0 1f247 3014 52dd 3015 0 1f248",
  "3014 6557 3015 0"]

def expansions : List (Nat × List Nat) :=
  (Text.groups (listed expansionTable)).filterMap fun group =>
    match group with
    | code :: parts => some (code, parts)
    | [] => none

/-- What a character becomes, if a domain name may hold it. -/
def foldCharacter? (c : Char) : Option (List Char) :=
  if c.toNat < 0x80 then some [c.toLower]
  else if isWithin barredBoundaries c then none
  else if isWithin droppedBoundaries c then some []
  else match shifts.findSome? (·.image? c.toNat) with
    | some code => some [Char.ofNat code]
    | none => some (((expansions.lookup c.toNat).map (·.map Char.ofNat)).getD [c])

/-- A character that no domain name may hold, and its place counted from one. -/
structure Barred where
  character : Char
  place : Nat
deriving DecidableEq, Repr

/-- What the characters of a text become from a place on. -/
def foldFrom (place : Nat) : List Char → Except Barred (List Char)
  | [] => .ok []
  | c :: rest =>
      match foldCharacter? c with
      | none => .error ⟨c, place⟩
      | some parts => (foldFrom (place + 1) rest).map (parts ++ ·)

/-- A name folded. -/
def fold (name : List Char) : Except Barred (List Char) := (foldFrom 1 name).map Text.composed

end Outreach.Domain
