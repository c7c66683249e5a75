import Outreach.Text.Codes

/-!
The directions in which the characters of a label are written, and which mixtures of them a label
may have.
-/

namespace Outreach.Domain

/-- Where the direction of characters in labels changes, and to which one. -/
def directionTable : List String := [
  "2d 5 30 4 61 0 b7 6 df 0 2b9 6 2bb 0 2c6 6 2d0 0 2ec 6 2ee 0 300 8 371 0 375 6 377 0 483 8 48b",
  "0 591 8 5d0 1 610 8 620 2 64b 8 660 3 66e 2 670 8 671 2 6d6 8 6e5 2 6e7 8 6ee 2 6f0 4 6fa 2",
  "711 8 712 2 730 8 74d 2 7a6 8 7b1 2 7c0 1 7eb 8 7f4 1 7fd 8 800 1 816 8 81a 1 81b 8 824 1 825",
  "8 828 1 829 8 840 1 859 8 860 2 88f 9 898 8 8a0 2 8ca 8 903 0 93a 8 93b 0 93c 8 93d 0 941 8",
  "949 0 94d 8 94e 0 951 8 960 0 962 8 966 0 981 8 982 0 9bc 8 9bd 0 9c1 8 9c7 0 9cd 8 9ce 0 9e2",
  "8 9e6 0 9fe 8 a03 0 a3c 8 a3e 0 a41 8 a5c 0 a70 8 a72 0 a75 8 a83 0 abc 8 abd 0 ac1 8 ac9 0",
  "acd 8 ad0 0 ae2 8 ae6 0 afa 8 b02 0 b3c 8 b3d 0 b3f 8 b40 0 b41 8 b47 0 b4d 8 b57 0 b62 8 b66",
  "0 b82 8 b83 0 bc0 8 bc1 0 bcd 8 bd0 0 c00 8 c01 0 c04 8 c05 0 c3c 8 c3d 0 c3e 8 c41 0 c46 8",
  "c58 0 c5c 9 c5d 0 c62 8 c66 0 c81 8 c82 0 cbc 8 cbd 0 ccc 8 cd5 0 cdc 9 cdd 0 ce2 8 ce6 0 cf3",
  "9 d00 8 d02 0 d3b 8 d3d 0 d41 8 d46 0 d4d 8 d4e 0 d62 8 d66 0 d81 8 d82 0 dca 8 dcf 0 dd2 8",
  "dd8 0 e31 8 e32 0 e34 8 e40 0 e47 8 e50 0 eb1 8 eb2 0 eb4 8 ebd 0 ec8 8 ece 9 ed0 0 f18 8 f20",
  "0 f35 8 f3e 0 f71 8 f7f 0 f80 8 f88 0 f8d 8 1000 0 102d 8 1031 0 1032 8 1038 0 1039 8 103b 0",
  "103d 8 103f 0 1058 8 105a 0 105e 8 1061 0 1071 8 1075 0 1082 8 1083 0 1085 8 1087 0 108d 8",
  "108e 0 109d 8 10d0 0 135d 8 1380 0 1712 8 1715 0 1732 8 1734 0 1752 8 1760 0 1772 8 1780 0",
  "17b7 8 17be 0 17c6 8 17c7 0 17c9 8 17d7 0 17dd 8 17e0 0 1885 8 1887 0 18a9 8 18aa 0 1920 8",
  "1923 0 1927 8 1929 0 1932 8 1933 0 1939 8 1946 0 1a17 8 1a19 0 1a1b 8 1a20 0 1a56 8 1a57 0",
  "1a58 8 1a61 0 1a62 8 1a63 0 1a65 8 1a6d 0 1a73 8 1a80 0 1ab0 8 1acf 9 1b00 8 1b04 0 1b34 8",
  "1b35 0 1b36 8 1b3b 0 1b3c 8 1b3d 0 1b42 8 1b43 0 1b6b 8 1b82 0 1ba2 8 1ba6 0 1ba8 8 1baa 0",
  "1bab 8 1bae 0 1be6 8 1be7 0 1be8 8 1bea 0 1bed 8 1bee 0 1bef 8 1bf2 0 1c2c 8 1c34 0 1c36 8",
  "1c40 0 1c8a 9 1cd0 8 1ce1 0 1ce2 8 1ce9 0 1ced 8 1cee 0 1cf4 8 1cf5 0 1cf8 8 1cfa 0 1dc0 8",
  "1e01 0 200c 7 214e 0 2cef 8 2cf3 0 2d7f 8 2d80 0 2de0 8 2e2f 6 3005 0 302a 8 303c 0 3099 8",
  "309d 0 30fb 6 30fc 0 a66f 8 a67f 6 a681 0 a69e 8 a6a0 0 a6f0 8 a717 6 a723 0 a788 6 a78c 0",
  "a7cd 9 a7d1 0 a7db 9 a7f6 0 a802 8 a803 0 a806 8 a807 0 a80b 8 a80c 0 a825 8 a827 0 a82c 8",
  "a840 0 a8c4 8 a8d0 0 a8e0 8 a8f2 0 a8ff 8 a900 0 a926 8 a930 0 a947 8 a952 0 a980 8 a983 0",
  "a9b3 8 a9b4 0 a9b6 8 a9ba 0 a9bc 8 a9be 0 a9e5 8 a9e6 0 aa29 8 aa2f 0 aa31 8 aa33 0 aa35 8",
  "aa40 0 aa43 8 aa44 0 aa4c 8 aa4d 0 aa7c 8 aa7d 0 aab0 8 aab1 0 aab2 8 aab5 0 aab7 8 aab9 0",
  "aabe 8 aac0 0 aac1 8 aac2 0 aaec 8 aaee 0 aaf6 8 ab01 0 abe5 8 abe6 0 abe8 8 abe9 0 abed 8",
  "abf0 0 fb1e 8 fe73 2 10000 0 101fd 8 10280 0 102e0 8 10300 0 10376 8 10380 0 105c0 9 10600 0",
  "10800 1 10940 9 10980 1 10a01 8 10a10 1 10a38 8 10a60 1 10ae5 8 10b00 1 10d00 2 10d24 8 10d30",
  "3 10d40 9 10e80 1 10eab 8 10eb0 1 10ec2 9 10f00 1 10f30 2 10f46 8 10f70 1 10f82 8 10fb0 1",
  "11000 0 11001 8 11002 0 11038 8 11066 0 11070 8 11071 0 11073 8 11075 0 1107f 8 11082 0 110b3",
  "8 110b7 0 110b9 8 110d0 0 11100 8 11103 0 11127 8 1112c 0 1112d 8 11136 0 11173 8 11176 0",
  "11180 8 11182 0 111b6 8 111bf 0 111c9 8 111ce 0 111cf 8 111d0 0 1122f 8 11232 0 11234 8 11235",
  "0 11236 8 1123f 9 11280 0 112df 8 112e0 0 112e3 8 112f0 0 11300 8 11302 0 1133b 8 1133d 0",
  "11340 8 11341 0 11366 8 11380 9 11400 0 11438 8 11440 0 11442 8 11445 0 11446 8 11447 0 1145e",
  "8 1145f 0 114b3 8 114b9 0 114ba 8 114bb 0 114bf 8 114c1 0 114c2 8 114c4 0 115b2 8 115b8 0",
  "115bc 8 115be 0 115bf 8 115d8 0 115dc 8 11600 0 11633 8 1163b 0 1163d 8 1163e 0 1163f 8 11644",
  "0 116ab 8 116ac 0 116ad 8 116ae 0 116b0 8 116b6 0 116b7 8 116b8 0 116d0 9 11700 0 1171d 8",
  "11720 0 11722 8 11726 0 11727 8 11730 0 1182f 8 11838 0 11839 8 118c0 0 1193b 8 1193d 0 1193e",
  "8 1193f 0 11943 8 11950 0 119d4 8 119dc 0 119e0 8 119e1 0 11a01 8 11a07 0 11a09 8 11a0b 0",
  "11a33 8 11a39 0 11a3b 8 11a50 0 11a51 8 11a57 0 11a59 8 11a5c 0 11a8a 8 11a97 0 11a98 8 11a9d",
  "0 11b60 9 11c00 0 11c30 8 11c3e 0 11c92 8 11ca9 0 11caa 8 11cb1 0 11cb2 8 11cb4 0 11cb5 8",
  "11d00 0 11d31 8 11d46 0 11d47 8 11d50 0 11d90 8 11d93 0 11d95 8 11d96 0 11d97 8 11d98 0 11db0",
  "9 11ee0 0 11ef3 8 11ef5 0 11f00 9 11fb0 0 1342f 9 14400 0 16100 9 16800 0 16af0 8 16b00 0",
  "16b30 8 16b40 0 16d40 9 16e60 0 16ebb 9 16f00 0 16f4f 8 16f50 0 16f8f 8 16f93 0 16fe4 8 16ff0",
  "0 16ff2 9 17000 0 187f8 9 18800 0 18cff 9 18d00 0 18d09 9 1aff0 0 1b132 9 1b150 0 1b155 9",
  "1b164 0 1bc9d 8 1df00 0 1df25 9 1e000 8 1e08f 9 1e100 0 1e130 8 1e137 0 1e2ae 8 1e2c0 0 1e2ec",
  "8 1e2f0 0 1e4d0 9 1e7e0 0 1e800 1 1e8d0 8 1e922 1 1e944 8 1e94b 1 20000 0 2b739 9 2b740 0",
  "2cea2 9 2ceb0 0 2ebf0 9 30000 0 31350 9"]

def directionChanges : List (Nat × Nat) := Text.pairs (Text.listed directionTable)

inductive Direction where
  | leftToRight | rightToLeft | arabicLetter | arabicNumber | number | separator | neutral
  | boundary | mark | unknown
deriving DecidableEq, Repr

namespace Direction

def ofNumber : Nat → Direction
  | 0 => leftToRight
  | 1 => rightToLeft
  | 2 => arabicLetter
  | 3 => arabicNumber
  | 4 => number
  | 5 => separator
  | 6 => neutral
  | 7 => boundary
  | 8 => mark
  | _ => unknown

def ofChar (c : Char) : Direction := ofNumber (Text.valueAt directionChanges c)

/-- Whether a character of this direction makes a label one that is written from right to left. -/
def turns : Direction → Bool
  | rightToLeft | arabicLetter | arabicNumber => true
  | _ => false

end Direction

/-- What is wrong with the directions in a label. Places are counted from one. -/
inductive DirectionFlaw where
  | unknown (place : Nat)
  | first
  | foreign (place : Nat) (isRightToLeft : Bool)
  | mixedNumbers
  | last
deriving DecidableEq, Repr

/-- The directions that a label may have besides the first. -/
def mayFollow (isRightToLeft : Bool) : Direction → Bool
  | .leftToRight => !isRightToLeft
  | .rightToLeft | .arabicLetter | .arabicNumber => isRightToLeft
  | .unknown => false
  | _ => true

/-- The directions with which a label may end, marks apart. -/
def mayEnd (isRightToLeft : Bool) : Direction → Bool
  | .leftToRight => !isRightToLeft
  | .rightToLeft | .arabicLetter | .arabicNumber => isRightToLeft
  | .number => true
  | _ => false

def isNumeral (direction : Direction) : Bool :=
  direction = .number || direction = .arabicNumber

/-- The first place at which directions are not as they may be. -/
def flawFrom (isRightToLeft : Bool) (numeral : Option Direction) :
    (place : Nat) → List Direction → Option DirectionFlaw
  | _, [] => none
  | place, direction :: rest =>
      if !mayFollow isRightToLeft direction then some (.foreign place isRightToLeft)
      else if isRightToLeft && isNumeral direction then
        match numeral with
        | none => flawFrom isRightToLeft (some direction) (place + 1) rest
        | some other =>
            if other = direction then flawFrom isRightToLeft numeral (place + 1) rest
            else some .mixedNumbers
      else flawFrom isRightToLeft numeral (place + 1) rest

/-- What is wrong with the directions in a label that is not empty. A label with nothing that is
written from right to left has no rules to keep. -/
def directionFlaw? (label : List Char) : Option DirectionFlaw :=
  let directions := label.map Direction.ofChar
  match directions.findIdx? (· = .unknown) with
  | some place => some (.unknown (place + 1))
  | none =>
      if !directions.any Direction.turns then none
      else
        let first := directions.head?
        let isRightToLeft := first = some .rightToLeft || first = some .arabicLetter
        if !isRightToLeft && first ≠ some .leftToRight then some .first
        else match flawFrom isRightToLeft none 1 directions with
          | some flaw => some flaw
          | none =>
              let last := (directions.reverse.find? (· ≠ .mark))
              if last.any (mayEnd isRightToLeft) then none else some .last

end Outreach.Domain
