import Outreach.Text.Mark
import Outreach.Text.Printable

/-!
The characters that the labels of domain names are made of: those that may stand anywhere, and those
that may stand only next to certain others.
-/

namespace Outreach.Domain

open Text (listed isWithin)

/-- Where the characters begin and end that may stand anywhere in a label. -/
def letterTable : List String := [
  "2d 2e 30 3a 61 7b df f7 f8 100 101 102 103 104 105 106 107 108 109 10a 10b 10c 10d 10e 10f 110",
  "111 112 113 114 115 116 117 118 119 11a 11b 11c 11d 11e 11f 120 121 122 123 124 125 126 127",
  "128 129 12a 12b 12c 12d 12e 12f 130 131 132 135 136 137 139 13a 13b 13c 13d 13e 13f 142 143",
  "144 145 146 147 148 149 14b 14c 14d 14e 14f 150 151 152 153 154 155 156 157 158 159 15a 15b",
  "15c 15d 15e 15f 160 161 162 163 164 165 166 167 168 169 16a 16b 16c 16d 16e 16f 170 171 172",
  "173 174 175 176 177 178 17a 17b 17c 17d 17e 17f 180 181 183 184 185 186 188 189 18c 18e 192",
  "193 195 196 199 19c 19e 19f 1a1 1a2 1a3 1a4 1a5 1a6 1a8 1a9 1aa 1ac 1ad 1ae 1b0 1b1 1b4 1b5",
  "1b6 1b7 1b9 1bc 1bd 1c4 1ce 1cf 1d0 1d1 1d2 1d3 1d4 1d5 1d6 1d7 1d8 1d9 1da 1db 1dc 1de 1df",
  "1e0 1e1 1e2 1e3 1e4 1e5 1e6 1e7 1e8 1e9 1ea 1eb 1ec 1ed 1ee 1ef 1f1 1f5 1f6 1f9 1fa 1fb 1fc",
  "1fd 1fe 1ff 200 201 202 203 204 205 206 207 208 209 20a 20b 20c 20d 20e 20f 210 211 212 213",
  "214 215 216 217 218 219 21a 21b 21c 21d 21e 21f 220 221 222 223 224 225 226 227 228 229 22a",
  "22b 22c 22d 22e 22f 230 231 232 233 23a 23c 23d 23f 241 242 243 247 248 249 24a 24b 24c 24d",
  "24e 24f 2b0 2b9 2c2 2c6 2d2 2ec 2ed 2ee 2ef 300 340 342 343 346 34f 350 370 371 372 373 374",
  "377 378 37b 37e 390 391 3ac 3cf 3d7 3d8 3d9 3da 3db 3dc 3dd 3de 3df 3e0 3e1 3e2 3e3 3e4 3e5",
  "3e6 3e7 3e8 3e9 3ea 3eb 3ec 3ed 3ee 3ef 3f0 3f3 3f4 3f8 3f9 3fb 3fd 430 460 461 462 463 464",
  "465 466 467 468 469 46a 46b 46c 46d 46e 46f 470 471 472 473 474 475 476 477 478 479 47a 47b",
  "47c 47d 47e 47f 480 481 482 483 488 48b 48c 48d 48e 48f 490 491 492 493 494 495 496 497 498",
  "499 49a 49b 49c 49d 49e 49f 4a0 4a1 4a2 4a3 4a4 4a5 4a6 4a7 4a8 4a9 4aa 4ab 4ac 4ad 4ae 4af",
  "4b0 4b1 4b2 4b3 4b4 4b5 4b6 4b7 4b8 4b9 4ba 4bb 4bc 4bd 4be 4bf 4c0 4c2 4c3 4c4 4c5 4c6 4c7",
  "4c8 4c9 4ca 4cb 4cc 4cd 4ce 4d0 4d1 4d2 4d3 4d4 4d5 4d6 4d7 4d8 4d9 4da 4db 4dc 4dd 4de 4df",
  "4e0 4e1 4e2 4e3 4e4 4e5 4e6 4e7 4e8 4e9 4ea 4eb 4ec 4ed 4ee 4ef 4f0 4f1 4f2 4f3 4f4 4f5 4f6",
  "4f7 4f8 4f9 4fa 4fb 4fc 4fd 4fe 4ff 500 501 502 503 504 505 506 507 508 509 50a 50b 50c 50d",
  "50e 50f 510 511 512 513 514 515 516 517 518 519 51a 51b 51c 51d 51e 51f 520 521 522 523 524",
  "525 526 527 528 529 52a 52b 52c 52d 52e 52f 530 559 55a 560 587 588 589 591 5be 5bf 5c0 5c1",
  "5c3 5c4 5c6 5c7 5c8 5d0 5eb 5ef 5f3 610 61b 620 640 641 660 66e 675 679 6d4 6d5 6dd 6df 6e9",
  "6ea 6f0 6fa 700 710 74b 74d 7b2 7c0 7f6 7fd 7fe 800 82e 840 85c 860 86b 870 888 889 890 897",
  "8e2 8e3 958 960 964 966 970 971 984 985 98d 98f 991 993 9a9 9aa 9b1 9b2 9b3 9b6 9ba 9bc 9c5",
  "9c7 9c9 9cb 9cf 9d7 9d8 9e0 9e4 9e6 9f2 9fc 9fd 9fe 9ff a01 a04 a05 a0b a0f a11 a13 a29 a2a",
  "a31 a32 a33 a35 a36 a38 a3a a3c a3d a3e a43 a47 a49 a4b a4e a51 a52 a5c a5d a66 a76 a81 a84",
  "a85 a8e a8f a92 a93 aa9 aaa ab1 ab2 ab4 ab5 aba abc ac6 ac7 aca acb ace ad0 ad1 ae0 ae4 ae6",
  "af0 af9 b00 b01 b04 b05 b0d b0f b11 b13 b29 b2a b31 b32 b34 b35 b3a b3c b45 b47 b49 b4b b4e",
  "b55 b58 b5f b64 b66 b70 b71 b72 b82 b84 b85 b8b b8e b91 b92 b96 b99 b9b b9c b9d b9e ba0 ba3",
  "ba5 ba8 bab bae bba bbe bc3 bc6 bc9 bca bce bd0 bd1 bd7 bd8 be6 bf0 c00 c0d c0e c11 c12 c29",
  "c2a c3a c3c c45 c46 c49 c4a c4e c55 c57 c58 c5b c5c c5e c60 c64 c66 c70 c80 c84 c85 c8d c8e",
  "c91 c92 ca9 caa cb4 cb5 cba cbc cc5 cc6 cc9 cca cce cd5 cd7 cdc cdf ce0 ce4 ce6 cf0 cf1 cf4",
  "d00 d0d d0e d11 d12 d45 d46 d49 d4a d4f d54 d58 d5f d64 d66 d70 d7a d80 d81 d84 d85 d97 d9a",
  "db2 db3 dbc dbd dbe dc0 dc7 dca dcb dcf dd5 dd6 dd7 dd8 de0 de6 df0 df2 df4 e01 e33 e34 e3b",
  "e40 e4f e50 e5a e81 e83 e84 e85 e86 e8b e8c ea4 ea5 ea6 ea7 eb3 eb4 ebe ec0 ec5 ec6 ec7 ec8",
  "ecf ed0 eda ede ee0 f00 f01 f0b f0c f18 f1a f20 f2a f35 f36 f37 f38 f39 f3a f3e f43 f44 f48",
  "f49 f4d f4e f52 f53 f57 f58 f5c f5d f69 f6a f6d f71 f73 f74 f75 f7a f81 f82 f85 f86 f93 f94",
  "f98 f99 f9d f9e fa2 fa3 fa7 fa8 fac fad fb9 fba fbd fc6 fc7 1000 104a 1050 109e 10d0 10fb 10fd",
  "1100 1200 1249 124a 124e 1250 1257 1258 1259 125a 125e 1260 1289 128a 128e 1290 12b1 12b2 12b6",
  "12b8 12bf 12c0 12c1 12c2 12c6 12c8 12d7 12d8 1311 1312 1316 1318 135b 135d 1360 1380 1390 13a0",
  "13f6 1401 166d 166f 1680 1681 169b 16a0 16eb 16f1 16f9 1700 1716 171f 1735 1740 1754 1760 176d",
  "176e 1771 1772 1774 1780 17b4 17b6 17d4 17d7 17d8 17dc 17de 17e0 17ea 1810 181a 1820 1879 1880",
  "18ab 18b0 18f6 1900 191f 1920 192c 1930 193c 1946 196e 1970 1975 1980 19ac 19b0 19ca 19d0 19da",
  "1a00 1a1c 1a20 1a5f 1a60 1a7d 1a7f 1a8a 1a90 1a9a 1aa7 1aa8 1ab0 1abe 1abf 1ade 1ae0 1aec 1b00",
  "1b4d 1b50 1b5a 1b6b 1b74 1b80 1bf4 1c00 1c38 1c40 1c4a 1c4d 1c7e 1c8a 1c8b 1cd0 1cd3 1cd4 1cfb",
  "1d00 1d2c 1d2f 1d30 1d3b 1d3c 1d4e 1d4f 1d6b 1d78 1d79 1d9b 1dc0 1e00 1e01 1e02 1e03 1e04 1e05",
  "1e06 1e07 1e08 1e09 1e0a 1e0b 1e0c 1e0d 1e0e 1e0f 1e10 1e11 1e12 1e13 1e14 1e15 1e16 1e17 1e18",
  "1e19 1e1a 1e1b 1e1c 1e1d 1e1e 1e1f 1e20 1e21 1e22 1e23 1e24 1e25 1e26 1e27 1e28 1e29 1e2a 1e2b",
  "1e2c 1e2d 1e2e 1e2f 1e30 1e31 1e32 1e33 1e34 1e35 1e36 1e37 1e38 1e39 1e3a 1e3b 1e3c 1e3d 1e3e",
  "1e3f 1e40 1e41 1e42 1e43 1e44 1e45 1e46 1e47 1e48 1e49 1e4a 1e4b 1e4c 1e4d 1e4e 1e4f 1e50 1e51",
  "1e52 1e53 1e54 1e55 1e56 1e57 1e58 1e59 1e5a 1e5b 1e5c 1e5d 1e5e 1e5f 1e60 1e61 1e62 1e63 1e64",
  "1e65 1e66 1e67 1e68 1e69 1e6a 1e6b 1e6c 1e6d 1e6e 1e6f 1e70 1e71 1e72 1e73 1e74 1e75 1e76 1e77",
  "1e78 1e79 1e7a 1e7b 1e7c 1e7d 1e7e 1e7f 1e80 1e81 1e82 1e83 1e84 1e85 1e86 1e87 1e88 1e89 1e8a",
  "1e8b 1e8c 1e8d 1e8e 1e8f 1e90 1e91 1e92 1e93 1e94 1e95 1e9a 1e9c 1e9e 1e9f 1ea0 1ea1 1ea2 1ea3",
  "1ea4 1ea5 1ea6 1ea7 1ea8 1ea9 1eaa 1eab 1eac 1ead 1eae 1eaf 1eb0 1eb1 1eb2 1eb3 1eb4 1eb5 1eb6",
  "1eb7 1eb8 1eb9 1eba 1ebb 1ebc 1ebd 1ebe 1ebf 1ec0 1ec1 1ec2 1ec3 1ec4 1ec5 1ec6 1ec7 1ec8 1ec9",
  "1eca 1ecb 1ecc 1ecd 1ece 1ecf 1ed0 1ed1 1ed2 1ed3 1ed4 1ed5 1ed6 1ed7 1ed8 1ed9 1eda 1edb 1edc",
  "1edd 1ede 1edf 1ee0 1ee1 1ee2 1ee3 1ee4 1ee5 1ee6 1ee7 1ee8 1ee9 1eea 1eeb 1eec 1eed 1eee 1eef",
  "1ef0 1ef1 1ef2 1ef3 1ef4 1ef5 1ef6 1ef7 1ef8 1ef9 1efa 1efb 1efc 1efd 1efe 1eff 1f08 1f10 1f16",
  "1f20 1f28 1f30 1f38 1f40 1f46 1f50 1f58 1f60 1f68 1f70 1f71 1f72 1f73 1f74 1f75 1f76 1f77 1f78",
  "1f79 1f7a 1f7b 1f7c 1f7d 1fb0 1fb2 1fb6 1fb7 1fc6 1fc7 1fd0 1fd3 1fd6 1fd8 1fe0 1fe3 1fe4 1fe8",
  "1ff6 1ff7 214e 214f 2184 2185 2c30 2c60 2c61 2c62 2c65 2c67 2c68 2c69 2c6a 2c6b 2c6c 2c6d 2c71",
  "2c72 2c73 2c75 2c76 2c7c 2c81 2c82 2c83 2c84 2c85 2c86 2c87 2c88 2c89 2c8a 2c8b 2c8c 2c8d 2c8e",
  "2c8f 2c90 2c91 2c92 2c93 2c94 2c95 2c96 2c97 2c98 2c99 2c9a 2c9b 2c9c 2c9d 2c9e 2c9f 2ca0 2ca1",
  "2ca2 2ca3 2ca4 2ca5 2ca6 2ca7 2ca8 2ca9 2caa 2cab 2cac 2cad 2cae 2caf 2cb0 2cb1 2cb2 2cb3 2cb4",
  "2cb5 2cb6 2cb7 2cb8 2cb9 2cba 2cbb 2cbc 2cbd 2cbe 2cbf 2cc0 2cc1 2cc2 2cc3 2cc4 2cc5 2cc6 2cc7",
  "2cc8 2cc9 2cca 2ccb 2ccc 2ccd 2cce 2ccf 2cd0 2cd1 2cd2 2cd3 2cd4 2cd5 2cd6 2cd7 2cd8 2cd9 2cda",
  "2cdb 2cdc 2cdd 2cde 2cdf 2ce0 2ce1 2ce2 2ce3 2ce5 2cec 2ced 2cee 2cf2 2cf3 2cf4 2d00 2d26 2d27",
  "2d28 2d2d 2d2e 2d30 2d68 2d7f 2d97 2da0 2da7 2da8 2daf 2db0 2db7 2db8 2dbf 2dc0 2dc7 2dc8 2dcf",
  "2dd0 2dd7 2dd8 2ddf 2de0 2e00 2e2f 2e30 3005 3008 302a 302e 303c 303d 3041 3097 3099 309b 309d",
  "309f 30a1 30fb 30fc 30ff 3105 3130 31a0 31c0 31f0 3200 3400 4dc0 4e00 a48d a4d0 a4fe a500 a60d",
  "a610 a62c a641 a642 a643 a644 a645 a646 a647 a648 a649 a64a a64b a64c a64d a64e a64f a650 a651",
  "a652 a653 a654 a655 a656 a657 a658 a659 a65a a65b a65c a65d a65e a65f a660 a661 a662 a663 a664",
  "a665 a666 a667 a668 a669 a66a a66b a66c a66d a670 a674 a67e a67f a680 a681 a682 a683 a684 a685",
  "a686 a687 a688 a689 a68a a68b a68c a68d a68e a68f a690 a691 a692 a693 a694 a695 a696 a697 a698",
  "a699 a69a a69b a69c a69e a6e6 a6f0 a6f2 a717 a720 a723 a724 a725 a726 a727 a728 a729 a72a a72b",
  "a72c a72d a72e a72f a732 a733 a734 a735 a736 a737 a738 a739 a73a a73b a73c a73d a73e a73f a740",
  "a741 a742 a743 a744 a745 a746 a747 a748 a749 a74a a74b a74c a74d a74e a74f a750 a751 a752 a753",
  "a754 a755 a756 a757 a758 a759 a75a a75b a75c a75d a75e a75f a760 a761 a762 a763 a764 a765 a766",
  "a767 a768 a769 a76a a76b a76c a76d a76e a76f a770 a771 a779 a77a a77b a77c a77d a77f a780 a781",
  "a782 a783 a784 a785 a786 a787 a789 a78c a78d a78e a790 a791 a792 a793 a796 a797 a798 a799 a79a",
  "a79b a79c a79d a79e a79f a7a0 a7a1 a7a2 a7a3 a7a4 a7a5 a7a6 a7a7 a7a8 a7a9 a7aa a7af a7b0 a7b5",
  "a7b6 a7b7 a7b8 a7b9 a7ba a7bb a7bc a7bd a7be a7bf a7c0 a7c1 a7c2 a7c3 a7c4 a7c8 a7c9 a7ca a7cb",
  "a7cd a7ce a7cf a7d0 a7d1 a7d2 a7d3 a7d4 a7d5 a7d6 a7d7 a7d8 a7d9 a7da a7db a7dc a7f6 a7f8 a7fa",
  "a828 a82c a82d a840 a874 a880 a8c6 a8d0 a8da a8e0 a8f8 a8fb a8fc a8fd a92e a930 a954 a980 a9c1",
  "a9cf a9da a9e0 a9ff aa00 aa37 aa40 aa4e aa50 aa5a aa60 aa77 aa7a aac3 aadb aade aae0 aaf0 aaf2",
  "aaf7 ab01 ab07 ab09 ab0f ab11 ab17 ab20 ab27 ab28 ab2f ab30 ab5b ab60 ab69 abc0 abeb abec abee",
  "abf0 abfa ac00 d7a4 fa0e fa10 fa11 fa12 fa13 fa15 fa1f fa20 fa21 fa22 fa23 fa25 fa27 fa2a fb1e",
  "fb1f fe20 fe30 fe73 fe74 10000 1000c 1000d 10027 10028 1003b 1003c 1003e 1003f 1004e 10050",
  "1005e 10080 100fb 101fd 101fe 10280 1029d 102a0 102d1 102e0 102e1 10300 10320 1032d 10341",
  "10342 1034a 10350 1037b 10380 1039e 103a0 103c4 103c8 103d0 10428 1049e 104a0 104aa 104d8",
  "104fc 10500 10528 10530 10564 10597 105a2 105a3 105b2 105b3 105ba 105bb 105bd 105c0 105f4",
  "10600 10737 10740 10756 10760 10768 10780 10781 10800 10806 10808 10809 1080a 10836 10837",
  "10839 1083c 1083d 1083f 10856 10860 10877 10880 1089f 108e0 108f3 108f4 108f6 10900 10916",
  "10920 1093a 10940 1095a 10980 109b8 109be 109c0 10a00 10a04 10a05 10a07 10a0c 10a14 10a15",
  "10a18 10a19 10a36 10a38 10a3b 10a3f 10a40 10a60 10a7d 10a80 10a9d 10ac0 10ac8 10ac9 10ae7",
  "10b00 10b36 10b40 10b56 10b60 10b73 10b80 10b92 10c00 10c49 10cc0 10cf3 10d00 10d28 10d30",
  "10d3a 10d40 10d50 10d69 10d6e 10d6f 10d86 10e80 10eaa 10eab 10ead 10eb0 10eb2 10ec2 10ec8",
  "10efa 10f1d 10f27 10f28 10f30 10f51 10f70 10f86 10fb0 10fc5 10fe0 10ff7 11000 11047 11066",
  "11076 1107f 110bb 110c2 110c3 110d0 110e9 110f0 110fa 11100 11135 11136 11140 11144 11148",
  "11150 11174 11176 11177 11180 111c5 111c9 111cd 111ce 111db 111dc 111dd 11200 11212 11213",
  "11238 1123e 11242 11280 11287 11288 11289 1128a 1128e 1128f 1129e 1129f 112a9 112b0 112eb",
  "112f0 112fa 11300 11304 11305 1130d 1130f 11311 11313 11329 1132a 11331 11332 11334 11335",
  "1133a 1133b 11345 11347 11349 1134b 1134e 11350 11351 11357 11358 1135d 11364 11366 1136d",
  "11370 11375 11380 1138a 1138b 1138c 1138e 1138f 11390 113b6 113b7 113c1 113c2 113c3 113c5",
  "113c6 113c7 113cb 113cc 113d4 113e1 113e3 11400 1144b 11450 1145a 1145e 11462 11480 114c6",
  "114c7 114c8 114d0 114da 11580 115b6 115b8 115c1 115d8 115de 11600 11641 11644 11645 11650",
  "1165a 11680 116b9 116c0 116ca 116d0 116e4 11700 1171b 1171d 1172c 11730 1173a 11740 11747",
  "11800 1183b 118c0 118ea 118ff 11907 11909 1190a 1190c 11914 11915 11917 11918 11936 11937",
  "11939 1193b 11944 11950 1195a 119a0 119a8 119aa 119d8 119da 119e2 119e3 119e5 11a00 11a3f",
  "11a47 11a48 11a50 11a9a 11a9d 11a9e 11ab0 11af9 11b60 11b68 11bc0 11be1 11bf0 11bfa 11c00",
  "11c09 11c0a 11c37 11c38 11c41 11c50 11c5a 11c72 11c90 11c92 11ca8 11ca9 11cb7 11d00 11d07",
  "11d08 11d0a 11d0b 11d37 11d3a 11d3b 11d3c 11d3e 11d3f 11d48 11d50 11d5a 11d60 11d66 11d67",
  "11d69 11d6a 11d8f 11d90 11d92 11d93 11d99 11da0 11daa 11db0 11ddc 11de0 11dea 11ee0 11ef7",
  "11f00 11f11 11f12 11f3b 11f3e 11f43 11f50 11f5b 11fb0 11fb1 12000 1239a 12480 12544 12f90",
  "12ff1 13000 13430 13440 13456 13460 143fb 14400 14647 16100 1613a 16800 16a39 16a40 16a5f",
  "16a60 16a6a 16a70 16abf 16ac0 16aca 16ad0 16aee 16af0 16af5 16b00 16b37 16b40 16b44 16b50",
  "16b5a 16b63 16b78 16b7d 16b90 16d40 16d6d 16d70 16d7a 16e60 16e80 16ebb 16ed4 16f00 16f4b",
  "16f4f 16f88 16f8f 16fa0 16fe0 16fe2 16fe3 16fe5 16ff0 16ff4 17000 18cd6 18cff 18d1f 18d80",
  "18df3 1aff0 1aff4 1aff5 1affc 1affd 1afff 1b000 1b123 1b132 1b133 1b150 1b153 1b155 1b156",
  "1b164 1b168 1b170 1b2fc 1bc00 1bc6b 1bc70 1bc7d 1bc80 1bc89 1bc90 1bc9a 1bc9d 1bc9f 1cf00",
  "1cf2e 1cf30 1cf47 1da00 1da37 1da3b 1da6d 1da75 1da76 1da84 1da85 1da9b 1daa0 1daa1 1dab0",
  "1df00 1df1f 1df25 1df2b 1e000 1e007 1e008 1e019 1e01b 1e022 1e023 1e025 1e026 1e02b 1e08f",
  "1e090 1e100 1e12d 1e130 1e13e 1e140 1e14a 1e14e 1e14f 1e290 1e2af 1e2c0 1e2fa 1e4d0 1e4fa",
  "1e5d0 1e5fb 1e6c0 1e6df 1e6e0 1e6f6 1e6fe 1e700 1e7e0 1e7e7 1e7e8 1e7ec 1e7ed 1e7ef 1e7f0",
  "1e7ff 1e800 1e8c5 1e8d0 1e8d7 1e922 1e94c 1e950 1e95a 20000 2a6e0 2a700 2b81e 2b820 2ceae",
  "2ceb0 2ebe1 2ebf0 2ee5e 30000 3134b 31350 3347a"]

def letterBoundaries : List Nat := listed letterTable

def isLetter (c : Char) : Bool := isWithin letterBoundaries c

/-! ### Joiners -/

/-- How letters join their neighbours, where that changes and how. -/
def joiningTable : List String := [
  "0 0 ad 1 ae 0 300 1 370 0 483 1 48a 0 591 1 5be 0 5bf 1 5c0 0 5c1 1 5c3 0 5c4 1 5c6 0 5c7 1",
  "5c8 0 610 1 61b 0 61c 1 61d 0 620 4 621 0 622 3 626 4 627 3 628 4 629 3 62a 4 62f 3 633 4 640",
  "5 641 4 648 3 649 4 64b 1 660 0 66e 4 670 1 671 3 674 0 675 3 678 4 688 3 69a 4 6c0 3 6c1 4",
  "6c3 3 6cc 4 6cd 3 6ce 4 6cf 3 6d0 4 6d2 3 6d4 0 6d5 3 6d6 1 6dd 0 6df 1 6e5 0 6e7 1 6e9 0 6ea",
  "1 6ee 3 6f0 0 6fa 4 6fd 0 6ff 4 700 0 70f 1 710 3 711 1 712 4 715 3 71a 4 71e 3 71f 4 728 3",
  "729 4 72a 3 72b 4 72c 3 72d 4 72f 3 730 1 74b 0 74d 3 74e 4 759 3 75c 4 76b 3 76d 4 771 3 772",
  "4 773 3 775 4 778 3 77a 4 780 0 7a6 1 7b1 0 7ca 4 7eb 1 7f4 0 7fa 5 7fb 0 7fd 1 7fe 0 816 1",
  "81a 0 81b 1 824 0 825 1 828 0 829 1 82e 0 840 3 841 4 846 3 848 4 849 3 84a 4 854 3 855 4 856",
  "3 859 1 85c 0 860 4 861 0 862 4 866 0 867 3 868 4 869 3 86b 0 870 3 883 5 886 4 887 0 889 4",
  "88e 3 88f 4 890 0 897 1 8a0 4 8aa 3 8ad 0 8ae 3 8af 4 8b1 3 8b3 4 8b9 3 8ba 4 8c9 0 8ca 1 8e2",
  "0 8e3 1 903 0 93a 1 93b 0 93c 1 93d 0 941 1 949 0 94d 1 94e 0 951 1 958 0 962 1 964 0 981 1",
  "982 0 9bc 1 9bd 0 9c1 1 9c5 0 9cd 1 9ce 0 9e2 1 9e4 0 9fe 1 9ff 0 a01 1 a03 0 a3c 1 a3d 0 a41",
  "1 a43 0 a47 1 a49 0 a4b 1 a4e 0 a51 1 a52 0 a70 1 a72 0 a75 1 a76 0 a81 1 a83 0 abc 1 abd 0",
  "ac1 1 ac6 0 ac7 1 ac9 0 acd 1 ace 0 ae2 1 ae4 0 afa 1 b00 0 b01 1 b02 0 b3c 1 b3d 0 b3f 1 b40",
  "0 b41 1 b45 0 b4d 1 b4e 0 b55 1 b57 0 b62 1 b64 0 b82 1 b83 0 bc0 1 bc1 0 bcd 1 bce 0 c00 1",
  "c01 0 c04 1 c05 0 c3c 1 c3d 0 c3e 1 c41 0 c46 1 c49 0 c4a 1 c4e 0 c55 1 c57 0 c62 1 c64 0 c81",
  "1 c82 0 cbc 1 cbd 0 cbf 1 cc0 0 cc6 1 cc7 0 ccc 1 cce 0 ce2 1 ce4 0 d00 1 d02 0 d3b 1 d3d 0",
  "d41 1 d45 0 d4d 1 d4e 0 d62 1 d64 0 d81 1 d82 0 dca 1 dcb 0 dd2 1 dd5 0 dd6 1 dd7 0 e31 1 e32",
  "0 e34 1 e3b 0 e47 1 e4f 0 eb1 1 eb2 0 eb4 1 ebd 0 ec8 1 ecf 0 f18 1 f1a 0 f35 1 f36 0 f37 1",
  "f38 0 f39 1 f3a 0 f71 1 f7f 0 f80 1 f85 0 f86 1 f88 0 f8d 1 f98 0 f99 1 fbd 0 fc6 1 fc7 0 102d",
  "1 1031 0 1032 1 1038 0 1039 1 103b 0 103d 1 103f 0 1058 1 105a 0 105e 1 1061 0 1071 1 1075 0",
  "1082 1 1083 0 1085 1 1087 0 108d 1 108e 0 109d 1 109e 0 135d 1 1360 0 1712 1 1715 0 1732 1",
  "1734 0 1752 1 1754 0 1772 1 1774 0 17b4 1 17b6 0 17b7 1 17be 0 17c6 1 17c7 0 17c9 1 17d4 0",
  "17dd 1 17de 0 1807 4 1808 0 180a 5 180b 1 180e 0 180f 1 1810 0 1820 4 1879 0 1885 1 1887 4",
  "18a9 1 18aa 4 18ab 0 1920 1 1923 0 1927 1 1929 0 1932 1 1933 0 1939 1 193c 0 1a17 1 1a19 0",
  "1a1b 1 1a1c 0 1a56 1 1a57 0 1a58 1 1a5f 0 1a60 1 1a61 0 1a62 1 1a63 0 1a65 1 1a6d 0 1a73 1",
  "1a7d 0 1a7f 1 1a80 0 1ab0 1 1ade 0 1ae0 1 1aec 0 1b00 1 1b04 0 1b34 1 1b35 0 1b36 1 1b3b 0",
  "1b3c 1 1b3d 0 1b42 1 1b43 0 1b6b 1 1b74 0 1b80 1 1b82 0 1ba2 1 1ba6 0 1ba8 1 1baa 0 1bab 1",
  "1bae 0 1be6 1 1be7 0 1be8 1 1bea 0 1bed 1 1bee 0 1bef 1 1bf2 0 1c2c 1 1c34 0 1c36 1 1c38 0",
  "1cd0 1 1cd3 0 1cd4 1 1ce1 0 1ce2 1 1ce9 0 1ced 1 1cee 0 1cf4 1 1cf5 0 1cf8 1 1cfa 0 1dc0 1",
  "1e00 0 200b 1 200c 0 200d 5 200e 1 2010 0 202a 1 202f 0 2060 1 2065 0 206a 1 2070 0 20d0 1",
  "20f1 0 2cef 1 2cf2 0 2d7f 1 2d80 0 2de0 1 2e00 0 302a 1 302e 0 3099 1 309b 0 a66f 1 a673 0",
  "a674 1 a67e 0 a69e 1 a6a0 0 a6f0 1 a6f2 0 a802 1 a803 0 a806 1 a807 0 a80b 1 a80c 0 a825 1",
  "a827 0 a82c 1 a82d 0 a840 4 a872 2 a873 0 a8c4 1 a8c6 0 a8e0 1 a8f2 0 a8ff 1 a900 0 a926 1",
  "a92e 0 a947 1 a952 0 a980 1 a983 0 a9b3 1 a9b4 0 a9b6 1 a9ba 0 a9bc 1 a9be 0 a9e5 1 a9e6 0",
  "aa29 1 aa2f 0 aa31 1 aa33 0 aa35 1 aa37 0 aa43 1 aa44 0 aa4c 1 aa4d 0 aa7c 1 aa7d 0 aab0 1",
  "aab1 0 aab2 1 aab5 0 aab7 1 aab9 0 aabe 1 aac0 0 aac1 1 aac2 0 aaec 1 aaee 0 aaf6 1 aaf7 0",
  "abe5 1 abe6 0 abe8 1 abe9 0 abed 1 abee 0 fb1e 1 fb1f 0 fe00 1 fe10 0 fe20 1 fe30 0 feff 1",
  "ff00 0 fff9 1 fffc 0 101fd 1 101fe 0 102e0 1 102e1 0 10376 1 1037b 0 10a01 1 10a04 0 10a05 1",
  "10a07 0 10a0c 1 10a10 0 10a38 1 10a3b 0 10a3f 1 10a40 0 10ac0 4 10ac5 3 10ac6 0 10ac7 3 10ac8",
  "0 10ac9 3 10acb 0 10acd 2 10ace 3 10ad3 4 10ad7 2 10ad8 4 10add 3 10ade 4 10ae1 3 10ae2 0",
  "10ae4 3 10ae5 1 10ae7 0 10aeb 4 10aef 3 10af0 0 10b80 4 10b81 3 10b82 4 10b83 3 10b86 4 10b89",
  "3 10b8a 4 10b8c 3 10b8d 4 10b8e 3 10b90 4 10b91 3 10b92 0 10ba9 3 10bad 4 10baf 0 10d00 2",
  "10d01 4 10d22 3 10d23 4 10d24 1 10d28 0 10d69 1 10d6e 0 10eab 1 10ead 0 10ec2 3 10ec3 4 10ec5",
  "0 10ec6 4 10ec8 0 10efa 1 10f00 0 10f30 4 10f33 3 10f34 4 10f45 0 10f46 1 10f51 4 10f54 3",
  "10f55 0 10f70 4 10f74 3 10f76 4 10f82 1 10f86 0 10fb0 4 10fb1 0 10fb2 4 10fb4 3 10fb7 0 10fb8",
  "4 10fb9 3 10fbb 4 10fbd 3 10fbe 4 10fc0 0 10fc1 4 10fc2 3 10fc4 4 10fc5 0 10fc9 3 10fca 4",
  "10fcb 2 10fcc 0 11001 1 11002 0 11038 1 11047 0 11070 1 11071 0 11073 1 11075 0 1107f 1 11082",
  "0 110b3 1 110b7 0 110b9 1 110bb 0 110c2 1 110c3 0 11100 1 11103 0 11127 1 1112c 0 1112d 1",
  "11135 0 11173 1 11174 0 11180 1 11182 0 111b6 1 111bf 0 111c9 1 111cd 0 111cf 1 111d0 0 1122f",
  "1 11232 0 11234 1 11235 0 11236 1 11238 0 1123e 1 1123f 0 11241 1 11242 0 112df 1 112e0 0",
  "112e3 1 112eb 0 11300 1 11302 0 1133b 1 1133d 0 11340 1 11341 0 11366 1 1136d 0 11370 1 11375",
  "0 113bb 1 113c1 0 113ce 1 113cf 0 113d0 1 113d1 0 113d2 1 113d3 0 113e1 1 113e3 0 11438 1",
  "11440 0 11442 1 11445 0 11446 1 11447 0 1145e 1 1145f 0 114b3 1 114b9 0 114ba 1 114bb 0 114bf",
  "1 114c1 0 114c2 1 114c4 0 115b2 1 115b6 0 115bc 1 115be 0 115bf 1 115c1 0 115dc 1 115de 0",
  "11633 1 1163b 0 1163d 1 1163e 0 1163f 1 11641 0 116ab 1 116ac 0 116ad 1 116ae 0 116b0 1 116b6",
  "0 116b7 1 116b8 0 1171d 1 1171e 0 1171f 1 11720 0 11722 1 11726 0 11727 1 1172c 0 1182f 1",
  "11838 0 11839 1 1183b 0 1193b 1 1193d 0 1193e 1 1193f 0 11943 1 11944 0 119d4 1 119d8 0 119da",
  "1 119dc 0 119e0 1 119e1 0 11a01 1 11a0b 0 11a33 1 11a39 0 11a3b 1 11a3f 0 11a47 1 11a48 0",
  "11a51 1 11a57 0 11a59 1 11a5c 0 11a8a 1 11a97 0 11a98 1 11a9a 0 11b60 1 11b61 0 11b62 1 11b65",
  "0 11b66 1 11b67 0 11c30 1 11c37 0 11c38 1 11c3e 0 11c3f 1 11c40 0 11c92 1 11ca8 0 11caa 1",
  "11cb1 0 11cb2 1 11cb4 0 11cb5 1 11cb7 0 11d31 1 11d37 0 11d3a 1 11d3b 0 11d3c 1 11d3e 0 11d3f",
  "1 11d46 0 11d47 1 11d48 0 11d90 1 11d92 0 11d95 1 11d96 0 11d97 1 11d98 0 11ef3 1 11ef5 0",
  "11f00 1 11f02 0 11f36 1 11f3b 0 11f40 1 11f41 0 11f42 1 11f43 0 11f5a 1 11f5b 0 13430 1 13441",
  "0 13447 1 13456 0 1611e 1 1612a 0 1612d 1 16130 0 16af0 1 16af5 0 16b30 1 16b37 0 16f4f 1",
  "16f50 0 16f8f 1 16f93 0 16fe4 1 16fe5 0 1bc9d 1 1bc9f 0 1bca0 1 1bca4 0 1cf00 1 1cf2e 0 1cf30",
  "1 1cf47 0 1d167 1 1d16a 0 1d173 1 1d183 0 1d185 1 1d18c 0 1d1aa 1 1d1ae 0 1d242 1 1d245 0",
  "1da00 1 1da37 0 1da3b 1 1da6d 0 1da75 1 1da76 0 1da84 1 1da85 0 1da9b 1 1daa0 0 1daa1 1 1dab0",
  "0 1e000 1 1e007 0 1e008 1 1e019 0 1e01b 1 1e022 0 1e023 1 1e025 0 1e026 1 1e02b 0 1e08f 1",
  "1e090 0 1e130 1 1e137 0 1e2ae 1 1e2af 0 1e2ec 1 1e2f0 0 1e4ec 1 1e4f0 0 1e5ee 1 1e5f0 0 1e6e3",
  "1 1e6e4 0 1e6e6 1 1e6e7 0 1e6ee 1 1e6f0 0 1e6f5 1 1e6f6 0 1e8d0 1 1e8d7 0 1e900 4 1e944 1",
  "1e94c 0 e0001 1 e0002 0 e0020 1 e0080 0 e0100 1 e01f0 0"]

def joiningChanges : List (Nat × Nat) := Text.pairs (listed joiningTable)

/-- How a character joins its neighbours. -/
inductive Joining where
  | apart | transparent | left | right | both | causing
deriving DecidableEq, Repr

def Joining.ofNumber : Nat → Joining
  | 1 => transparent
  | 2 => left
  | 3 => right
  | 4 => both
  | 5 => causing
  | _ => apart

def joining (c : Char) : Joining := .ofNumber (Text.valueAt joiningChanges c)

def nonJoiner : Char := '\u200c'

def joiner : Char := '\u200d'

/-- The first character of a list that takes part in joining. -/
def firstJoining (text : List Char) : Joining :=
  ((text.find? fun c => joining c ≠ .transparent).map joining).getD .apart

/-- Whether nothing is known of a character that stands in a label. -/
def isUnknown (c : Char) : Bool := !Text.isPrintable c && c ≠ joiner && c ≠ nonJoiner

/-- Whether a joiner or a non-joiner may stand between what is before it, the last first, and what
is after it: behind a sign that suppresses a vowel, and a non-joiner also between letters that
join. -/
def joinerFits (c : Char) (before after : List Char) : Bool :=
  match before with
  | [] => false
  | previous :: _ =>
      Text.combiningClass previous = Text.viramaClass ||
        (c = nonJoiner && !isUnknown previous &&
          [Joining.left, .both].contains (firstJoining before) &&
          [Joining.right, .both].contains (firstJoining after))

/-! ### Characters that stand in company -/

def greekBoundaries : List Nat := listed [
  "370 374 375 378 37a 37e 37f 380 384 385 386 387 388 38b 38c 38d 38e 3a2 3a3 3e2 3f0 400 1d26",
  "1d2b 1d5d 1d62 1d66 1d6b 1dbf 1dc0 1f00 1f16 1f18 1f1e 1f20 1f46 1f48 1f4e 1f50 1f58 1f59 1f5a",
  "1f5b 1f5c 1f5d 1f5e 1f5f 1f7e 1f80 1fb5 1fb6 1fc5 1fc6 1fd4 1fd6 1fdc 1fdd 1ff0 1ff2 1ff5 1ff6",
  "1fff 2126 2127 ab65 ab66 10140 1018f 101a0 101a1 1d200 1d246"]

def hebrewBoundaries : List Nat := listed [
  "591 5c8 5d0 5eb 5ef 5f5 fb1d fb37 fb38 fb3d fb3e fb3f fb40 fb42 fb43 fb45 fb46 fb50"]

/-- The scripts of Japanese and Chinese. -/
def eastAsianBoundaries : List Nat := listed [
  "2e80 2e9a 2e9b 2ef4 2f00 2fd6 3005 3006 3007 3008 3021 302a 3038 303c 3041 3097 309d 30a0 30a1",
  "30fb 30fd 3100 31f0 3200 32d0 32ff 3300 3358 3400 4dc0 4e00 a000 f900 fa6e fa70 fada ff66 ff70",
  "ff71 ff9e 16fe2 16fe4 16ff0 16ff7 1aff0 1aff4 1aff5 1affc 1affd 1afff 1b000 1b123 1b132 1b133",
  "1b150 1b153 1b155 1b156 1b164 1b168 1f200 1f201 20000 2a6e0 2a700 2b81e 2b820 2ceae 2ceb0",
  "2ebe1 2ebf0 2ee5e 2f800 2fa1e 30000 3134b 31350 3347a"]

def isBetween (low high : Nat) (c : Char) : Bool := low ≤ c.toNat && c.toNat ≤ high

/-- Whether a character that needs company has it, if it is of this kind; given are what is before
it, the last first, and what is after it. -/
def inCompany? (c : Char) (before after : List Char) : Option Bool :=
  let others := before ++ after
  if c = '\u00b7' then some (before.head? = some 'l' && after.head? = some 'l')
  else if c = '\u0375' then some (after.head?.any (isWithin greekBoundaries))
  else if c = '\u05f3' ∨ c = '\u05f4' then some (before.head?.any (isWithin hebrewBoundaries))
  else if c = '\u30fb' then
    some (others.any fun other => other ≠ c && isWithin eastAsianBoundaries other)
  else if isBetween 0x660 0x669 c then some (!others.any (isBetween 0x6f0 0x6f9))
  else if isBetween 0x6f0 0x6f9 c then some (!others.any (isBetween 0x660 0x669))
  else none

end Outreach.Domain
