import Outreach.Text.Mark
import Outreach.Text.Printable
import Outreach.Text.Quoted

/-!
Characters as messages name them: a visible one in quotes, and another one by its name.
-/

namespace Outreach.Text

/-- The names of the characters that are not visible by themselves, in runs of code points that
follow one another, each with its first. -/
def nameRuns : List (Nat × List String) := [
  (0xa0, ["NO-BREAK SPACE"]),
  (0xad, ["SOFT HYPHEN"]),
  (0x300, ["COMBINING GRAVE ACCENT", "COMBINING ACUTE ACCENT", "COMBINING CIRCUMFLEX ACCENT",
    "COMBINING TILDE", "COMBINING MACRON", "COMBINING OVERLINE", "COMBINING BREVE",
    "COMBINING DOT ABOVE", "COMBINING DIAERESIS", "COMBINING HOOK ABOVE", "COMBINING RING ABOVE",
    "COMBINING DOUBLE ACUTE ACCENT", "COMBINING CARON", "COMBINING VERTICAL LINE ABOVE",
    "COMBINING DOUBLE VERTICAL LINE ABOVE", "COMBINING DOUBLE GRAVE ACCENT",
    "COMBINING CANDRABINDU", "COMBINING INVERTED BREVE", "COMBINING TURNED COMMA ABOVE",
    "COMBINING COMMA ABOVE", "COMBINING REVERSED COMMA ABOVE", "COMBINING COMMA ABOVE RIGHT",
    "COMBINING GRAVE ACCENT BELOW", "COMBINING ACUTE ACCENT BELOW", "COMBINING LEFT TACK BELOW",
    "COMBINING RIGHT TACK BELOW", "COMBINING LEFT ANGLE ABOVE", "COMBINING HORN",
    "COMBINING LEFT HALF RING BELOW", "COMBINING UP TACK BELOW", "COMBINING DOWN TACK BELOW",
    "COMBINING PLUS SIGN BELOW", "COMBINING MINUS SIGN BELOW", "COMBINING PALATALIZED HOOK BELOW",
    "COMBINING RETROFLEX HOOK BELOW", "COMBINING DOT BELOW", "COMBINING DIAERESIS BELOW",
    "COMBINING RING BELOW", "COMBINING COMMA BELOW", "COMBINING CEDILLA", "COMBINING OGONEK",
    "COMBINING VERTICAL LINE BELOW", "COMBINING BRIDGE BELOW",
    "COMBINING INVERTED DOUBLE ARCH BELOW", "COMBINING CARON BELOW",
    "COMBINING CIRCUMFLEX ACCENT BELOW", "COMBINING BREVE BELOW", "COMBINING INVERTED BREVE BELOW",
    "COMBINING TILDE BELOW", "COMBINING MACRON BELOW", "COMBINING LOW LINE",
    "COMBINING DOUBLE LOW LINE", "COMBINING TILDE OVERLAY", "COMBINING SHORT STROKE OVERLAY",
    "COMBINING LONG STROKE OVERLAY", "COMBINING SHORT SOLIDUS OVERLAY",
    "COMBINING LONG SOLIDUS OVERLAY", "COMBINING RIGHT HALF RING BELOW",
    "COMBINING INVERTED BRIDGE BELOW", "COMBINING SQUARE BELOW", "COMBINING SEAGULL BELOW",
    "COMBINING X ABOVE", "COMBINING VERTICAL TILDE", "COMBINING DOUBLE OVERLINE",
    "COMBINING GRAVE TONE MARK", "COMBINING ACUTE TONE MARK", "COMBINING GREEK PERISPOMENI",
    "COMBINING GREEK KORONIS", "COMBINING GREEK DIALYTIKA TONOS", "COMBINING GREEK YPOGEGRAMMENI",
    "COMBINING BRIDGE ABOVE", "COMBINING EQUALS SIGN BELOW",
    "COMBINING DOUBLE VERTICAL LINE BELOW", "COMBINING LEFT ANGLE BELOW",
    "COMBINING NOT TILDE ABOVE", "COMBINING HOMOTHETIC ABOVE", "COMBINING ALMOST EQUAL TO ABOVE",
    "COMBINING LEFT RIGHT ARROW BELOW", "COMBINING UPWARDS ARROW BELOW",
    "COMBINING GRAPHEME JOINER", "COMBINING RIGHT ARROWHEAD ABOVE",
    "COMBINING LEFT HALF RING ABOVE", "COMBINING FERMATA", "COMBINING X BELOW",
    "COMBINING LEFT ARROWHEAD BELOW", "COMBINING RIGHT ARROWHEAD BELOW",
    "COMBINING RIGHT ARROWHEAD AND UP ARROWHEAD BELOW", "COMBINING RIGHT HALF RING ABOVE",
    "COMBINING DOT ABOVE RIGHT", "COMBINING ASTERISK BELOW", "COMBINING DOUBLE RING BELOW",
    "COMBINING ZIGZAG ABOVE", "COMBINING DOUBLE BREVE BELOW", "COMBINING DOUBLE BREVE",
    "COMBINING DOUBLE MACRON", "COMBINING DOUBLE MACRON BELOW", "COMBINING DOUBLE TILDE",
    "COMBINING DOUBLE INVERTED BREVE", "COMBINING DOUBLE RIGHTWARDS ARROW BELOW",
    "COMBINING LATIN SMALL LETTER A", "COMBINING LATIN SMALL LETTER E",
    "COMBINING LATIN SMALL LETTER I", "COMBINING LATIN SMALL LETTER O",
    "COMBINING LATIN SMALL LETTER U", "COMBINING LATIN SMALL LETTER C",
    "COMBINING LATIN SMALL LETTER D", "COMBINING LATIN SMALL LETTER H",
    "COMBINING LATIN SMALL LETTER M", "COMBINING LATIN SMALL LETTER R",
    "COMBINING LATIN SMALL LETTER T", "COMBINING LATIN SMALL LETTER V",
    "COMBINING LATIN SMALL LETTER X"]),
  (0x483, ["COMBINING CYRILLIC TITLO", "COMBINING CYRILLIC PALATALIZATION",
    "COMBINING CYRILLIC DASIA PNEUMATA", "COMBINING CYRILLIC PSILI PNEUMATA",
    "COMBINING CYRILLIC POKRYTIE", "COMBINING CYRILLIC HUNDRED THOUSANDS SIGN",
    "COMBINING CYRILLIC MILLIONS SIGN"]),
  (0x591, ["HEBREW ACCENT ETNAHTA", "HEBREW ACCENT SEGOL", "HEBREW ACCENT SHALSHELET",
    "HEBREW ACCENT ZAQEF QATAN", "HEBREW ACCENT ZAQEF GADOL", "HEBREW ACCENT TIPEHA",
    "HEBREW ACCENT REVIA", "HEBREW ACCENT ZARQA", "HEBREW ACCENT PASHTA", "HEBREW ACCENT YETIV",
    "HEBREW ACCENT TEVIR", "HEBREW ACCENT GERESH", "HEBREW ACCENT GERESH MUQDAM",
    "HEBREW ACCENT GERSHAYIM", "HEBREW ACCENT QARNEY PARA", "HEBREW ACCENT TELISHA GEDOLA",
    "HEBREW ACCENT PAZER", "HEBREW ACCENT ATNAH HAFUKH", "HEBREW ACCENT MUNAH",
    "HEBREW ACCENT MAHAPAKH", "HEBREW ACCENT MERKHA", "HEBREW ACCENT MERKHA KEFULA",
    "HEBREW ACCENT DARGA", "HEBREW ACCENT QADMA", "HEBREW ACCENT TELISHA QETANA",
    "HEBREW ACCENT YERAH BEN YOMO", "HEBREW ACCENT OLE", "HEBREW ACCENT ILUY",
    "HEBREW ACCENT DEHI", "HEBREW ACCENT ZINOR", "HEBREW MARK MASORA CIRCLE", "HEBREW POINT SHEVA",
    "HEBREW POINT HATAF SEGOL", "HEBREW POINT HATAF PATAH", "HEBREW POINT HATAF QAMATS",
    "HEBREW POINT HIRIQ", "HEBREW POINT TSERE", "HEBREW POINT SEGOL", "HEBREW POINT PATAH",
    "HEBREW POINT QAMATS", "HEBREW POINT HOLAM", "HEBREW POINT HOLAM HASER FOR VAV",
    "HEBREW POINT QUBUTS", "HEBREW POINT DAGESH OR MAPIQ", "HEBREW POINT METEG"]),
  (0x5bf, ["HEBREW POINT RAFE"]),
  (0x5c1, ["HEBREW POINT SHIN DOT", "HEBREW POINT SIN DOT"]),
  (0x5c4, ["HEBREW MARK UPPER DOT", "HEBREW MARK LOWER DOT"]),
  (0x5c7, ["HEBREW POINT QAMATS QATAN"]),
  (0x600, ["ARABIC NUMBER SIGN", "ARABIC SIGN SANAH", "ARABIC FOOTNOTE MARKER",
    "ARABIC SIGN SAFHA", "ARABIC SIGN SAMVAT", "ARABIC NUMBER MARK ABOVE"]),
  (0x610, ["ARABIC SIGN SALLALLAHOU ALAYHE WASSALLAM", "ARABIC SIGN ALAYHE ASSALLAM",
    "ARABIC SIGN RAHMATULLAH ALAYHE", "ARABIC SIGN RADI ALLAHOU ANHU", "ARABIC SIGN TAKHALLUS",
    "ARABIC SMALL HIGH TAH", "ARABIC SMALL HIGH LIGATURE ALEF WITH LAM WITH YEH",
    "ARABIC SMALL HIGH ZAIN", "ARABIC SMALL FATHA", "ARABIC SMALL DAMMA", "ARABIC SMALL KASRA"]),
  (0x61c, ["ARABIC LETTER MARK"]),
  (0x64b, ["ARABIC FATHATAN", "ARABIC DAMMATAN", "ARABIC KASRATAN", "ARABIC FATHA", "ARABIC DAMMA",
    "ARABIC KASRA", "ARABIC SHADDA", "ARABIC SUKUN", "ARABIC MADDAH ABOVE", "ARABIC HAMZA ABOVE",
    "ARABIC HAMZA BELOW", "ARABIC SUBSCRIPT ALEF", "ARABIC INVERTED DAMMA",
    "ARABIC MARK NOON GHUNNA", "ARABIC ZWARAKAY", "ARABIC VOWEL SIGN SMALL V ABOVE",
    "ARABIC VOWEL SIGN INVERTED SMALL V ABOVE", "ARABIC VOWEL SIGN DOT BELOW",
    "ARABIC REVERSED DAMMA", "ARABIC FATHA WITH TWO DOTS", "ARABIC WAVY HAMZA BELOW"]),
  (0x670, ["ARABIC LETTER SUPERSCRIPT ALEF"]),
  (0x6d6, ["ARABIC SMALL HIGH LIGATURE SAD WITH LAM WITH ALEF MAKSURA",
    "ARABIC SMALL HIGH LIGATURE QAF WITH LAM WITH ALEF MAKSURA",
    "ARABIC SMALL HIGH MEEM INITIAL FORM", "ARABIC SMALL HIGH LAM ALEF", "ARABIC SMALL HIGH JEEM",
    "ARABIC SMALL HIGH THREE DOTS", "ARABIC SMALL HIGH SEEN", "ARABIC END OF AYAH"]),
  (0x6df, ["ARABIC SMALL HIGH ROUNDED ZERO", "ARABIC SMALL HIGH UPRIGHT RECTANGULAR ZERO",
    "ARABIC SMALL HIGH DOTLESS HEAD OF KHAH", "ARABIC SMALL HIGH MEEM ISOLATED FORM",
    "ARABIC SMALL LOW SEEN", "ARABIC SMALL HIGH MADDA"]),
  (0x6e7, ["ARABIC SMALL HIGH YEH", "ARABIC SMALL HIGH NOON"]),
  (0x6ea, ["ARABIC EMPTY CENTRE LOW STOP", "ARABIC EMPTY CENTRE HIGH STOP",
    "ARABIC ROUNDED HIGH STOP WITH FILLED CENTRE", "ARABIC SMALL LOW MEEM"]),
  (0x70f, ["SYRIAC ABBREVIATION MARK"]),
  (0x711, ["SYRIAC LETTER SUPERSCRIPT ALAPH"]),
  (0x730, ["SYRIAC PTHAHA ABOVE", "SYRIAC PTHAHA BELOW", "SYRIAC PTHAHA DOTTED",
    "SYRIAC ZQAPHA ABOVE", "SYRIAC ZQAPHA BELOW", "SYRIAC ZQAPHA DOTTED", "SYRIAC RBASA ABOVE",
    "SYRIAC RBASA BELOW", "SYRIAC DOTTED ZLAMA HORIZONTAL", "SYRIAC DOTTED ZLAMA ANGULAR",
    "SYRIAC HBASA ABOVE", "SYRIAC HBASA BELOW", "SYRIAC HBASA-ESASA DOTTED", "SYRIAC ESASA ABOVE",
    "SYRIAC ESASA BELOW", "SYRIAC RWAHA", "SYRIAC FEMININE DOT", "SYRIAC QUSHSHAYA",
    "SYRIAC RUKKAKHA", "SYRIAC TWO VERTICAL DOTS ABOVE", "SYRIAC TWO VERTICAL DOTS BELOW",
    "SYRIAC THREE DOTS ABOVE", "SYRIAC THREE DOTS BELOW", "SYRIAC OBLIQUE LINE ABOVE",
    "SYRIAC OBLIQUE LINE BELOW", "SYRIAC MUSIC", "SYRIAC BARREKH"]),
  (0x7a6, ["THAANA ABAFILI", "THAANA AABAAFILI", "THAANA IBIFILI", "THAANA EEBEEFILI",
    "THAANA UBUFILI", "THAANA OOBOOFILI", "THAANA EBEFILI", "THAANA EYBEYFILI", "THAANA OBOFILI",
    "THAANA OABOAFILI", "THAANA SUKUN"]),
  (0x7eb, ["NKO COMBINING SHORT HIGH TONE", "NKO COMBINING SHORT LOW TONE",
    "NKO COMBINING SHORT RISING TONE", "NKO COMBINING LONG DESCENDING TONE",
    "NKO COMBINING LONG HIGH TONE", "NKO COMBINING LONG LOW TONE",
    "NKO COMBINING LONG RISING TONE", "NKO COMBINING NASALIZATION MARK",
    "NKO COMBINING DOUBLE DOT ABOVE"]),
  (0x7fd, ["NKO DANTAYALAN"]),
  (0x816, ["SAMARITAN MARK IN", "SAMARITAN MARK IN-ALAF", "SAMARITAN MARK OCCLUSION",
    "SAMARITAN MARK DAGESH"]),
  (0x81b, ["SAMARITAN MARK EPENTHETIC YUT", "SAMARITAN VOWEL SIGN LONG E",
    "SAMARITAN VOWEL SIGN E", "SAMARITAN VOWEL SIGN OVERLONG AA", "SAMARITAN VOWEL SIGN LONG AA",
    "SAMARITAN VOWEL SIGN AA", "SAMARITAN VOWEL SIGN OVERLONG A", "SAMARITAN VOWEL SIGN LONG A",
    "SAMARITAN VOWEL SIGN A"]),
  (0x825, ["SAMARITAN VOWEL SIGN SHORT A", "SAMARITAN VOWEL SIGN LONG U",
    "SAMARITAN VOWEL SIGN U"]),
  (0x829, ["SAMARITAN VOWEL SIGN LONG I", "SAMARITAN VOWEL SIGN I", "SAMARITAN VOWEL SIGN O",
    "SAMARITAN VOWEL SIGN SUKUN", "SAMARITAN MARK NEQUDAA"]),
  (0x859, ["MANDAIC AFFRICATION MARK", "MANDAIC VOCALIZATION MARK", "MANDAIC GEMINATION MARK"]),
  (0x890, ["ARABIC POUND MARK ABOVE", "ARABIC PIASTRE MARK ABOVE"]),
  (0x898, ["ARABIC SMALL HIGH WORD AL-JUZ", "ARABIC SMALL LOW WORD ISHMAAM",
    "ARABIC SMALL LOW WORD IMAALA", "ARABIC SMALL LOW WORD TASHEEL", "ARABIC MADDA WAAJIB",
    "ARABIC SUPERSCRIPT ALEF MOKHASSAS", "ARABIC DOUBLED MADDA", "ARABIC HALF MADDA OVER MADDA"]),
  (0x8ca, ["ARABIC SMALL HIGH FARSI YEH", "ARABIC SMALL HIGH YEH BARREE WITH TWO DOTS BELOW",
    "ARABIC SMALL HIGH WORD SAH", "ARABIC SMALL HIGH ZAH", "ARABIC LARGE ROUND DOT ABOVE",
    "ARABIC LARGE ROUND DOT BELOW", "ARABIC SUKUN BELOW", "ARABIC LARGE CIRCLE BELOW",
    "ARABIC LARGE ROUND DOT INSIDE CIRCLE BELOW", "ARABIC SMALL LOW WAW",
    "ARABIC SMALL HIGH WORD AR-RUB", "ARABIC SMALL HIGH SAD", "ARABIC SMALL HIGH AIN",
    "ARABIC SMALL HIGH QAF", "ARABIC SMALL HIGH NOON WITH KASRA",
    "ARABIC SMALL LOW NOON WITH KASRA", "ARABIC SMALL HIGH WORD ATH-THALATHA",
    "ARABIC SMALL HIGH WORD AS-SAJDA", "ARABIC SMALL HIGH WORD AN-NISF",
    "ARABIC SMALL HIGH WORD SAKTA", "ARABIC SMALL HIGH WORD QIF", "ARABIC SMALL HIGH WORD WAQFA",
    "ARABIC SMALL HIGH FOOTNOTE MARKER", "ARABIC SMALL HIGH SIGN SAFHA",
    "ARABIC DISPUTED END OF AYAH", "ARABIC TURNED DAMMA BELOW", "ARABIC CURLY FATHA",
    "ARABIC CURLY DAMMA", "ARABIC CURLY KASRA", "ARABIC CURLY FATHATAN", "ARABIC CURLY DAMMATAN",
    "ARABIC CURLY KASRATAN", "ARABIC TONE ONE DOT ABOVE", "ARABIC TONE TWO DOTS ABOVE",
    "ARABIC TONE LOOP ABOVE", "ARABIC TONE ONE DOT BELOW", "ARABIC TONE TWO DOTS BELOW",
    "ARABIC TONE LOOP BELOW", "ARABIC OPEN FATHATAN", "ARABIC OPEN DAMMATAN",
    "ARABIC OPEN KASRATAN", "ARABIC SMALL HIGH WAW", "ARABIC FATHA WITH RING",
    "ARABIC FATHA WITH DOT ABOVE", "ARABIC KASRA WITH DOT BELOW", "ARABIC LEFT ARROWHEAD ABOVE",
    "ARABIC RIGHT ARROWHEAD ABOVE", "ARABIC LEFT ARROWHEAD BELOW", "ARABIC RIGHT ARROWHEAD BELOW",
    "ARABIC DOUBLE RIGHT ARROWHEAD ABOVE", "ARABIC DOUBLE RIGHT ARROWHEAD ABOVE WITH DOT",
    "ARABIC RIGHT ARROWHEAD ABOVE WITH DOT", "ARABIC DAMMA WITH DOT",
    "ARABIC MARK SIDEWAYS NOON GHUNNA", "DEVANAGARI SIGN INVERTED CANDRABINDU",
    "DEVANAGARI SIGN CANDRABINDU", "DEVANAGARI SIGN ANUSVARA", "DEVANAGARI SIGN VISARGA"]),
  (0x93a, ["DEVANAGARI VOWEL SIGN OE", "DEVANAGARI VOWEL SIGN OOE", "DEVANAGARI SIGN NUKTA"]),
  (0x93e, ["DEVANAGARI VOWEL SIGN AA", "DEVANAGARI VOWEL SIGN I", "DEVANAGARI VOWEL SIGN II",
    "DEVANAGARI VOWEL SIGN U", "DEVANAGARI VOWEL SIGN UU", "DEVANAGARI VOWEL SIGN VOCALIC R",
    "DEVANAGARI VOWEL SIGN VOCALIC RR", "DEVANAGARI VOWEL SIGN CANDRA E",
    "DEVANAGARI VOWEL SIGN SHORT E", "DEVANAGARI VOWEL SIGN E", "DEVANAGARI VOWEL SIGN AI",
    "DEVANAGARI VOWEL SIGN CANDRA O", "DEVANAGARI VOWEL SIGN SHORT O", "DEVANAGARI VOWEL SIGN O",
    "DEVANAGARI VOWEL SIGN AU", "DEVANAGARI SIGN VIRAMA", "DEVANAGARI VOWEL SIGN PRISHTHAMATRA E",
    "DEVANAGARI VOWEL SIGN AW"]),
  (0x951, ["DEVANAGARI STRESS SIGN UDATTA", "DEVANAGARI STRESS SIGN ANUDATTA",
    "DEVANAGARI GRAVE ACCENT", "DEVANAGARI ACUTE ACCENT", "DEVANAGARI VOWEL SIGN CANDRA LONG E",
    "DEVANAGARI VOWEL SIGN UE", "DEVANAGARI VOWEL SIGN UUE"]),
  (0x962, ["DEVANAGARI VOWEL SIGN VOCALIC L", "DEVANAGARI VOWEL SIGN VOCALIC LL"]),
  (0x981, ["BENGALI SIGN CANDRABINDU", "BENGALI SIGN ANUSVARA", "BENGALI SIGN VISARGA"]),
  (0x9bc, ["BENGALI SIGN NUKTA"]),
  (0x9be, ["BENGALI VOWEL SIGN AA", "BENGALI VOWEL SIGN I", "BENGALI VOWEL SIGN II",
    "BENGALI VOWEL SIGN U", "BENGALI VOWEL SIGN UU", "BENGALI VOWEL SIGN VOCALIC R",
    "BENGALI VOWEL SIGN VOCALIC RR"]),
  (0x9c7, ["BENGALI VOWEL SIGN E", "BENGALI VOWEL SIGN AI"]),
  (0x9cb, ["BENGALI VOWEL SIGN O", "BENGALI VOWEL SIGN AU", "BENGALI SIGN VIRAMA"]),
  (0x9d7, ["BENGALI AU LENGTH MARK"]),
  (0x9e2, ["BENGALI VOWEL SIGN VOCALIC L", "BENGALI VOWEL SIGN VOCALIC LL"]),
  (0x9fe, ["BENGALI SANDHI MARK"]),
  (0xa01, ["GURMUKHI SIGN ADAK BINDI", "GURMUKHI SIGN BINDI", "GURMUKHI SIGN VISARGA"]),
  (0xa3c, ["GURMUKHI SIGN NUKTA"]),
  (0xa3e, ["GURMUKHI VOWEL SIGN AA", "GURMUKHI VOWEL SIGN I", "GURMUKHI VOWEL SIGN II",
    "GURMUKHI VOWEL SIGN U", "GURMUKHI VOWEL SIGN UU"]),
  (0xa47, ["GURMUKHI VOWEL SIGN EE", "GURMUKHI VOWEL SIGN AI"]),
  (0xa4b, ["GURMUKHI VOWEL SIGN OO", "GURMUKHI VOWEL SIGN AU", "GURMUKHI SIGN VIRAMA"]),
  (0xa51, ["GURMUKHI SIGN UDAAT"]),
  (0xa70, ["GURMUKHI TIPPI", "GURMUKHI ADDAK"]),
  (0xa75, ["GURMUKHI SIGN YAKASH"]),
  (0xa81, ["GUJARATI SIGN CANDRABINDU", "GUJARATI SIGN ANUSVARA", "GUJARATI SIGN VISARGA"]),
  (0xabc, ["GUJARATI SIGN NUKTA"]),
  (0xabe, ["GUJARATI VOWEL SIGN AA", "GUJARATI VOWEL SIGN I", "GUJARATI VOWEL SIGN II",
    "GUJARATI VOWEL SIGN U", "GUJARATI VOWEL SIGN UU", "GUJARATI VOWEL SIGN VOCALIC R",
    "GUJARATI VOWEL SIGN VOCALIC RR", "GUJARATI VOWEL SIGN CANDRA E"]),
  (0xac7, ["GUJARATI VOWEL SIGN E", "GUJARATI VOWEL SIGN AI", "GUJARATI VOWEL SIGN CANDRA O"]),
  (0xacb, ["GUJARATI VOWEL SIGN O", "GUJARATI VOWEL SIGN AU", "GUJARATI SIGN VIRAMA"]),
  (0xae2, ["GUJARATI VOWEL SIGN VOCALIC L", "GUJARATI VOWEL SIGN VOCALIC LL"]),
  (0xafa, ["GUJARATI SIGN SUKUN", "GUJARATI SIGN SHADDA", "GUJARATI SIGN MADDAH",
    "GUJARATI SIGN THREE-DOT NUKTA ABOVE", "GUJARATI SIGN CIRCLE NUKTA ABOVE",
    "GUJARATI SIGN TWO-CIRCLE NUKTA ABOVE"]),
  (0xb01, ["ORIYA SIGN CANDRABINDU", "ORIYA SIGN ANUSVARA", "ORIYA SIGN VISARGA"]),
  (0xb3c, ["ORIYA SIGN NUKTA"]),
  (0xb3e, ["ORIYA VOWEL SIGN AA", "ORIYA VOWEL SIGN I", "ORIYA VOWEL SIGN II",
    "ORIYA VOWEL SIGN U", "ORIYA VOWEL SIGN UU", "ORIYA VOWEL SIGN VOCALIC R",
    "ORIYA VOWEL SIGN VOCALIC RR"]),
  (0xb47, ["ORIYA VOWEL SIGN E", "ORIYA VOWEL SIGN AI"]),
  (0xb4b, ["ORIYA VOWEL SIGN O", "ORIYA VOWEL SIGN AU", "ORIYA SIGN VIRAMA"]),
  (0xb55, ["ORIYA SIGN OVERLINE", "ORIYA AI LENGTH MARK", "ORIYA AU LENGTH MARK"]),
  (0xb62, ["ORIYA VOWEL SIGN VOCALIC L", "ORIYA VOWEL SIGN VOCALIC LL"]),
  (0xb82, ["TAMIL SIGN ANUSVARA"]),
  (0xbbe, ["TAMIL VOWEL SIGN AA", "TAMIL VOWEL SIGN I", "TAMIL VOWEL SIGN II",
    "TAMIL VOWEL SIGN U", "TAMIL VOWEL SIGN UU"]),
  (0xbc6, ["TAMIL VOWEL SIGN E", "TAMIL VOWEL SIGN EE", "TAMIL VOWEL SIGN AI"]),
  (0xbca, ["TAMIL VOWEL SIGN O", "TAMIL VOWEL SIGN OO", "TAMIL VOWEL SIGN AU",
    "TAMIL SIGN VIRAMA"]),
  (0xbd7, ["TAMIL AU LENGTH MARK"]),
  (0xc00, ["TELUGU SIGN COMBINING CANDRABINDU ABOVE", "TELUGU SIGN CANDRABINDU",
    "TELUGU SIGN ANUSVARA", "TELUGU SIGN VISARGA", "TELUGU SIGN COMBINING ANUSVARA ABOVE"]),
  (0xc3c, ["TELUGU SIGN NUKTA"]),
  (0xc3e, ["TELUGU VOWEL SIGN AA", "TELUGU VOWEL SIGN I", "TELUGU VOWEL SIGN II",
    "TELUGU VOWEL SIGN U", "TELUGU VOWEL SIGN UU", "TELUGU VOWEL SIGN VOCALIC R",
    "TELUGU VOWEL SIGN VOCALIC RR"]),
  (0xc46, ["TELUGU VOWEL SIGN E", "TELUGU VOWEL SIGN EE", "TELUGU VOWEL SIGN AI"]),
  (0xc4a, ["TELUGU VOWEL SIGN O", "TELUGU VOWEL SIGN OO", "TELUGU VOWEL SIGN AU",
    "TELUGU SIGN VIRAMA"]),
  (0xc55, ["TELUGU LENGTH MARK", "TELUGU AI LENGTH MARK"]),
  (0xc62, ["TELUGU VOWEL SIGN VOCALIC L", "TELUGU VOWEL SIGN VOCALIC LL"]),
  (0xc81, ["KANNADA SIGN CANDRABINDU", "KANNADA SIGN ANUSVARA", "KANNADA SIGN VISARGA"]),
  (0xcbc, ["KANNADA SIGN NUKTA"]),
  (0xcbe, ["KANNADA VOWEL SIGN AA", "KANNADA VOWEL SIGN I", "KANNADA VOWEL SIGN II",
    "KANNADA VOWEL SIGN U", "KANNADA VOWEL SIGN UU", "KANNADA VOWEL SIGN VOCALIC R",
    "KANNADA VOWEL SIGN VOCALIC RR"]),
  (0xcc6, ["KANNADA VOWEL SIGN E", "KANNADA VOWEL SIGN EE", "KANNADA VOWEL SIGN AI"]),
  (0xcca, ["KANNADA VOWEL SIGN O", "KANNADA VOWEL SIGN OO", "KANNADA VOWEL SIGN AU",
    "KANNADA SIGN VIRAMA"]),
  (0xcd5, ["KANNADA LENGTH MARK", "KANNADA AI LENGTH MARK"]),
  (0xce2, ["KANNADA VOWEL SIGN VOCALIC L", "KANNADA VOWEL SIGN VOCALIC LL"]),
  (0xd00, ["MALAYALAM SIGN COMBINING ANUSVARA ABOVE", "MALAYALAM SIGN CANDRABINDU",
    "MALAYALAM SIGN ANUSVARA", "MALAYALAM SIGN VISARGA"]),
  (0xd3b, ["MALAYALAM SIGN VERTICAL BAR VIRAMA", "MALAYALAM SIGN CIRCULAR VIRAMA"]),
  (0xd3e, ["MALAYALAM VOWEL SIGN AA", "MALAYALAM VOWEL SIGN I", "MALAYALAM VOWEL SIGN II",
    "MALAYALAM VOWEL SIGN U", "MALAYALAM VOWEL SIGN UU", "MALAYALAM VOWEL SIGN VOCALIC R",
    "MALAYALAM VOWEL SIGN VOCALIC RR"]),
  (0xd46, ["MALAYALAM VOWEL SIGN E", "MALAYALAM VOWEL SIGN EE", "MALAYALAM VOWEL SIGN AI"]),
  (0xd4a, ["MALAYALAM VOWEL SIGN O", "MALAYALAM VOWEL SIGN OO", "MALAYALAM VOWEL SIGN AU",
    "MALAYALAM SIGN VIRAMA"]),
  (0xd57, ["MALAYALAM AU LENGTH MARK"]),
  (0xd62, ["MALAYALAM VOWEL SIGN VOCALIC L", "MALAYALAM VOWEL SIGN VOCALIC LL"]),
  (0xd81, ["SINHALA SIGN CANDRABINDU", "SINHALA SIGN ANUSVARAYA", "SINHALA SIGN VISARGAYA"]),
  (0xdca, ["SINHALA SIGN AL-LAKUNA"]),
  (0xdcf, ["SINHALA VOWEL SIGN AELA-PILLA", "SINHALA VOWEL SIGN KETTI AEDA-PILLA",
    "SINHALA VOWEL SIGN DIGA AEDA-PILLA", "SINHALA VOWEL SIGN KETTI IS-PILLA",
    "SINHALA VOWEL SIGN DIGA IS-PILLA", "SINHALA VOWEL SIGN KETTI PAA-PILLA"]),
  (0xdd6, ["SINHALA VOWEL SIGN DIGA PAA-PILLA"]),
  (0xdd8, ["SINHALA VOWEL SIGN GAETTA-PILLA", "SINHALA VOWEL SIGN KOMBUVA",
    "SINHALA VOWEL SIGN DIGA KOMBUVA", "SINHALA VOWEL SIGN KOMBU DEKA",
    "SINHALA VOWEL SIGN KOMBUVA HAA AELA-PILLA", "SINHALA VOWEL SIGN KOMBUVA HAA DIGA AELA-PILLA",
    "SINHALA VOWEL SIGN KOMBUVA HAA GAYANUKITTA", "SINHALA VOWEL SIGN GAYANUKITTA"]),
  (0xdf2, ["SINHALA VOWEL SIGN DIGA GAETTA-PILLA", "SINHALA VOWEL SIGN DIGA GAYANUKITTA"]),
  (0xe31, ["THAI CHARACTER MAI HAN-AKAT"]),
  (0xe34, ["THAI CHARACTER SARA I", "THAI CHARACTER SARA II", "THAI CHARACTER SARA UE",
    "THAI CHARACTER SARA UEE", "THAI CHARACTER SARA U", "THAI CHARACTER SARA UU",
    "THAI CHARACTER PHINTHU"]),
  (0xe47, ["THAI CHARACTER MAITAIKHU", "THAI CHARACTER MAI EK", "THAI CHARACTER MAI THO",
    "THAI CHARACTER MAI TRI", "THAI CHARACTER MAI CHATTAWA", "THAI CHARACTER THANTHAKHAT",
    "THAI CHARACTER NIKHAHIT", "THAI CHARACTER YAMAKKAN"]),
  (0xeb1, ["LAO VOWEL SIGN MAI KAN"]),
  (0xeb4, ["LAO VOWEL SIGN I", "LAO VOWEL SIGN II", "LAO VOWEL SIGN Y", "LAO VOWEL SIGN YY",
    "LAO VOWEL SIGN U", "LAO VOWEL SIGN UU", "LAO SIGN PALI VIRAMA", "LAO VOWEL SIGN MAI KON",
    "LAO SEMIVOWEL SIGN LO"]),
  (0xec8, ["LAO TONE MAI EK", "LAO TONE MAI THO", "LAO TONE MAI TI", "LAO TONE MAI CATAWA",
    "LAO CANCELLATION MARK", "LAO NIGGAHITA"]),
  (0xf18, ["TIBETAN ASTROLOGICAL SIGN -KHYUD PA", "TIBETAN ASTROLOGICAL SIGN SDONG TSHUGS"]),
  (0xf35, ["TIBETAN MARK NGAS BZUNG NYI ZLA"]),
  (0xf37, ["TIBETAN MARK NGAS BZUNG SGOR RTAGS"]),
  (0xf39, ["TIBETAN MARK TSA -PHRU"]),
  (0xf3e, ["TIBETAN SIGN YAR TSHES", "TIBETAN SIGN MAR TSHES"]),
  (0xf71, ["TIBETAN VOWEL SIGN AA", "TIBETAN VOWEL SIGN I", "TIBETAN VOWEL SIGN II",
    "TIBETAN VOWEL SIGN U", "TIBETAN VOWEL SIGN UU", "TIBETAN VOWEL SIGN VOCALIC R",
    "TIBETAN VOWEL SIGN VOCALIC RR", "TIBETAN VOWEL SIGN VOCALIC L",
    "TIBETAN VOWEL SIGN VOCALIC LL", "TIBETAN VOWEL SIGN E", "TIBETAN VOWEL SIGN EE",
    "TIBETAN VOWEL SIGN O", "TIBETAN VOWEL SIGN OO", "TIBETAN SIGN RJES SU NGA RO",
    "TIBETAN SIGN RNAM BCAD", "TIBETAN VOWEL SIGN REVERSED I", "TIBETAN VOWEL SIGN REVERSED II",
    "TIBETAN SIGN NYI ZLA NAA DA", "TIBETAN SIGN SNA LDAN", "TIBETAN MARK HALANTA"]),
  (0xf86, ["TIBETAN SIGN LCI RTAGS", "TIBETAN SIGN YANG RTAGS"]),
  (0xf8d, ["TIBETAN SUBJOINED SIGN LCE TSA CAN", "TIBETAN SUBJOINED SIGN MCHU CAN",
    "TIBETAN SUBJOINED SIGN INVERTED MCHU CAN", "TIBETAN SUBJOINED LETTER KA",
    "TIBETAN SUBJOINED LETTER KHA", "TIBETAN SUBJOINED LETTER GA", "TIBETAN SUBJOINED LETTER GHA",
    "TIBETAN SUBJOINED LETTER NGA", "TIBETAN SUBJOINED LETTER CA", "TIBETAN SUBJOINED LETTER CHA",
    "TIBETAN SUBJOINED LETTER JA"]),
  (0xf99, ["TIBETAN SUBJOINED LETTER NYA", "TIBETAN SUBJOINED LETTER TTA",
    "TIBETAN SUBJOINED LETTER TTHA", "TIBETAN SUBJOINED LETTER DDA",
    "TIBETAN SUBJOINED LETTER DDHA", "TIBETAN SUBJOINED LETTER NNA", "TIBETAN SUBJOINED LETTER TA",
    "TIBETAN SUBJOINED LETTER THA", "TIBETAN SUBJOINED LETTER DA", "TIBETAN SUBJOINED LETTER DHA",
    "TIBETAN SUBJOINED LETTER NA", "TIBETAN SUBJOINED LETTER PA", "TIBETAN SUBJOINED LETTER PHA",
    "TIBETAN SUBJOINED LETTER BA", "TIBETAN SUBJOINED LETTER BHA", "TIBETAN SUBJOINED LETTER MA",
    "TIBETAN SUBJOINED LETTER TSA", "TIBETAN SUBJOINED LETTER TSHA",
    "TIBETAN SUBJOINED LETTER DZA", "TIBETAN SUBJOINED LETTER DZHA", "TIBETAN SUBJOINED LETTER WA",
    "TIBETAN SUBJOINED LETTER ZHA", "TIBETAN SUBJOINED LETTER ZA", "TIBETAN SUBJOINED LETTER -A",
    "TIBETAN SUBJOINED LETTER YA", "TIBETAN SUBJOINED LETTER RA", "TIBETAN SUBJOINED LETTER LA",
    "TIBETAN SUBJOINED LETTER SHA", "TIBETAN SUBJOINED LETTER SSA", "TIBETAN SUBJOINED LETTER SA",
    "TIBETAN SUBJOINED LETTER HA", "TIBETAN SUBJOINED LETTER A", "TIBETAN SUBJOINED LETTER KSSA",
    "TIBETAN SUBJOINED LETTER FIXED-FORM WA", "TIBETAN SUBJOINED LETTER FIXED-FORM YA",
    "TIBETAN SUBJOINED LETTER FIXED-FORM RA"]),
  (0xfc6, ["TIBETAN SYMBOL PADMA GDAN"]),
  (0x102b, ["MYANMAR VOWEL SIGN TALL AA", "MYANMAR VOWEL SIGN AA", "MYANMAR VOWEL SIGN I",
    "MYANMAR VOWEL SIGN II", "MYANMAR VOWEL SIGN U", "MYANMAR VOWEL SIGN UU",
    "MYANMAR VOWEL SIGN E", "MYANMAR VOWEL SIGN AI", "MYANMAR VOWEL SIGN MON II",
    "MYANMAR VOWEL SIGN MON O", "MYANMAR VOWEL SIGN E ABOVE", "MYANMAR SIGN ANUSVARA",
    "MYANMAR SIGN DOT BELOW", "MYANMAR SIGN VISARGA", "MYANMAR SIGN VIRAMA", "MYANMAR SIGN ASAT",
    "MYANMAR CONSONANT SIGN MEDIAL YA", "MYANMAR CONSONANT SIGN MEDIAL RA",
    "MYANMAR CONSONANT SIGN MEDIAL WA", "MYANMAR CONSONANT SIGN MEDIAL HA"]),
  (0x1056, ["MYANMAR VOWEL SIGN VOCALIC R", "MYANMAR VOWEL SIGN VOCALIC RR",
    "MYANMAR VOWEL SIGN VOCALIC L", "MYANMAR VOWEL SIGN VOCALIC LL"]),
  (0x105e, ["MYANMAR CONSONANT SIGN MON MEDIAL NA", "MYANMAR CONSONANT SIGN MON MEDIAL MA",
    "MYANMAR CONSONANT SIGN MON MEDIAL LA"]),
  (0x1062, ["MYANMAR VOWEL SIGN SGAW KAREN EU", "MYANMAR TONE MARK SGAW KAREN HATHI",
    "MYANMAR TONE MARK SGAW KAREN KE PHO"]),
  (0x1067, ["MYANMAR VOWEL SIGN WESTERN PWO KAREN EU", "MYANMAR VOWEL SIGN WESTERN PWO KAREN UE",
    "MYANMAR SIGN WESTERN PWO KAREN TONE-1", "MYANMAR SIGN WESTERN PWO KAREN TONE-2",
    "MYANMAR SIGN WESTERN PWO KAREN TONE-3", "MYANMAR SIGN WESTERN PWO KAREN TONE-4",
    "MYANMAR SIGN WESTERN PWO KAREN TONE-5"]),
  (0x1071, ["MYANMAR VOWEL SIGN GEBA KAREN I", "MYANMAR VOWEL SIGN KAYAH OE",
    "MYANMAR VOWEL SIGN KAYAH U", "MYANMAR VOWEL SIGN KAYAH EE"]),
  (0x1082, ["MYANMAR CONSONANT SIGN SHAN MEDIAL WA", "MYANMAR VOWEL SIGN SHAN AA",
    "MYANMAR VOWEL SIGN SHAN E", "MYANMAR VOWEL SIGN SHAN E ABOVE",
    "MYANMAR VOWEL SIGN SHAN FINAL Y", "MYANMAR SIGN SHAN TONE-2", "MYANMAR SIGN SHAN TONE-3",
    "MYANMAR SIGN SHAN TONE-5", "MYANMAR SIGN SHAN TONE-6", "MYANMAR SIGN SHAN COUNCIL TONE-2",
    "MYANMAR SIGN SHAN COUNCIL TONE-3", "MYANMAR SIGN SHAN COUNCIL EMPHATIC TONE"]),
  (0x108f, ["MYANMAR SIGN RUMAI PALAUNG TONE-5"]),
  (0x109a, ["MYANMAR SIGN KHAMTI TONE-1", "MYANMAR SIGN KHAMTI TONE-3",
    "MYANMAR VOWEL SIGN AITON A", "MYANMAR VOWEL SIGN AITON AI"]),
  (0x135d, ["ETHIOPIC COMBINING GEMINATION AND VOWEL LENGTH MARK",
    "ETHIOPIC COMBINING VOWEL LENGTH MARK", "ETHIOPIC COMBINING GEMINATION MARK"]),
  (0x1680, ["OGHAM SPACE MARK"]),
  (0x1712, ["TAGALOG VOWEL SIGN I", "TAGALOG VOWEL SIGN U", "TAGALOG SIGN VIRAMA",
    "TAGALOG SIGN PAMUDPOD"]),
  (0x1732, ["HANUNOO VOWEL SIGN I", "HANUNOO VOWEL SIGN U", "HANUNOO SIGN PAMUDPOD"]),
  (0x1752, ["BUHID VOWEL SIGN I", "BUHID VOWEL SIGN U"]),
  (0x1772, ["TAGBANWA VOWEL SIGN I", "TAGBANWA VOWEL SIGN U"]),
  (0x17b4, ["KHMER VOWEL INHERENT AQ", "KHMER VOWEL INHERENT AA", "KHMER VOWEL SIGN AA",
    "KHMER VOWEL SIGN I", "KHMER VOWEL SIGN II", "KHMER VOWEL SIGN Y", "KHMER VOWEL SIGN YY",
    "KHMER VOWEL SIGN U", "KHMER VOWEL SIGN UU", "KHMER VOWEL SIGN UA", "KHMER VOWEL SIGN OE",
    "KHMER VOWEL SIGN YA", "KHMER VOWEL SIGN IE", "KHMER VOWEL SIGN E", "KHMER VOWEL SIGN AE",
    "KHMER VOWEL SIGN AI", "KHMER VOWEL SIGN OO", "KHMER VOWEL SIGN AU", "KHMER SIGN NIKAHIT",
    "KHMER SIGN REAHMUK", "KHMER SIGN YUUKALEAPINTU", "KHMER SIGN MUUSIKATOAN",
    "KHMER SIGN TRIISAP", "KHMER SIGN BANTOC", "KHMER SIGN ROBAT", "KHMER SIGN TOANDAKHIAT",
    "KHMER SIGN KAKABAT", "KHMER SIGN AHSDA", "KHMER SIGN SAMYOK SANNYA", "KHMER SIGN VIRIAM",
    "KHMER SIGN COENG", "KHMER SIGN BATHAMASAT"]),
  (0x17dd, ["KHMER SIGN ATTHACAN"]),
  (0x180b, ["MONGOLIAN FREE VARIATION SELECTOR ONE", "MONGOLIAN FREE VARIATION SELECTOR TWO",
    "MONGOLIAN FREE VARIATION SELECTOR THREE", "MONGOLIAN VOWEL SEPARATOR",
    "MONGOLIAN FREE VARIATION SELECTOR FOUR"]),
  (0x1885, ["MONGOLIAN LETTER ALI GALI BALUDA", "MONGOLIAN LETTER ALI GALI THREE BALUDA"]),
  (0x18a9, ["MONGOLIAN LETTER ALI GALI DAGALGA"]),
  (0x1920, ["LIMBU VOWEL SIGN A", "LIMBU VOWEL SIGN I", "LIMBU VOWEL SIGN U",
    "LIMBU VOWEL SIGN EE", "LIMBU VOWEL SIGN AI", "LIMBU VOWEL SIGN OO", "LIMBU VOWEL SIGN AU",
    "LIMBU VOWEL SIGN E", "LIMBU VOWEL SIGN O", "LIMBU SUBJOINED LETTER YA",
    "LIMBU SUBJOINED LETTER RA", "LIMBU SUBJOINED LETTER WA"]),
  (0x1930, ["LIMBU SMALL LETTER KA", "LIMBU SMALL LETTER NGA", "LIMBU SMALL LETTER ANUSVARA",
    "LIMBU SMALL LETTER TA", "LIMBU SMALL LETTER NA", "LIMBU SMALL LETTER PA",
    "LIMBU SMALL LETTER MA", "LIMBU SMALL LETTER RA", "LIMBU SMALL LETTER LA",
    "LIMBU SIGN MUKPHRENG", "LIMBU SIGN KEMPHRENG", "LIMBU SIGN SA-I"]),
  (0x1a17, ["BUGINESE VOWEL SIGN I", "BUGINESE VOWEL SIGN U", "BUGINESE VOWEL SIGN E",
    "BUGINESE VOWEL SIGN O", "BUGINESE VOWEL SIGN AE"]),
  (0x1a55, ["TAI THAM CONSONANT SIGN MEDIAL RA", "TAI THAM CONSONANT SIGN MEDIAL LA",
    "TAI THAM CONSONANT SIGN LA TANG LAI", "TAI THAM SIGN MAI KANG LAI",
    "TAI THAM CONSONANT SIGN FINAL NGA", "TAI THAM CONSONANT SIGN LOW PA",
    "TAI THAM CONSONANT SIGN HIGH RATHA OR LOW PA", "TAI THAM CONSONANT SIGN MA",
    "TAI THAM CONSONANT SIGN BA", "TAI THAM CONSONANT SIGN SA"]),
  (0x1a60, ["TAI THAM SIGN SAKOT", "TAI THAM VOWEL SIGN A", "TAI THAM VOWEL SIGN MAI SAT",
    "TAI THAM VOWEL SIGN AA", "TAI THAM VOWEL SIGN TALL AA", "TAI THAM VOWEL SIGN I",
    "TAI THAM VOWEL SIGN II", "TAI THAM VOWEL SIGN UE", "TAI THAM VOWEL SIGN UUE",
    "TAI THAM VOWEL SIGN U", "TAI THAM VOWEL SIGN UU", "TAI THAM VOWEL SIGN O",
    "TAI THAM VOWEL SIGN OA BELOW", "TAI THAM VOWEL SIGN OY", "TAI THAM VOWEL SIGN E",
    "TAI THAM VOWEL SIGN AE", "TAI THAM VOWEL SIGN OO", "TAI THAM VOWEL SIGN AI",
    "TAI THAM VOWEL SIGN THAM AI", "TAI THAM VOWEL SIGN OA ABOVE", "TAI THAM SIGN MAI KANG",
    "TAI THAM SIGN TONE-1", "TAI THAM SIGN TONE-2", "TAI THAM SIGN KHUEN TONE-3",
    "TAI THAM SIGN KHUEN TONE-4", "TAI THAM SIGN KHUEN TONE-5", "TAI THAM SIGN RA HAAM",
    "TAI THAM SIGN MAI SAM", "TAI THAM SIGN KHUEN-LUE KARAN"]),
  (0x1a7f, ["TAI THAM COMBINING CRYPTOGRAMMIC DOT"]),
  (0x1ab0, ["COMBINING DOUBLED CIRCUMFLEX ACCENT", "COMBINING DIAERESIS-RING",
    "COMBINING INFINITY", "COMBINING DOWNWARDS ARROW", "COMBINING TRIPLE DOT",
    "COMBINING X-X BELOW", "COMBINING WIGGLY LINE BELOW", "COMBINING OPEN MARK BELOW",
    "COMBINING DOUBLE OPEN MARK BELOW", "COMBINING LIGHT CENTRALIZATION STROKE BELOW",
    "COMBINING STRONG CENTRALIZATION STROKE BELOW", "COMBINING PARENTHESES ABOVE",
    "COMBINING DOUBLE PARENTHESES ABOVE", "COMBINING PARENTHESES BELOW",
    "COMBINING PARENTHESES OVERLAY", "COMBINING LATIN SMALL LETTER W BELOW",
    "COMBINING LATIN SMALL LETTER TURNED W BELOW", "COMBINING LEFT PARENTHESIS ABOVE LEFT",
    "COMBINING RIGHT PARENTHESIS ABOVE RIGHT", "COMBINING LEFT PARENTHESIS BELOW LEFT",
    "COMBINING RIGHT PARENTHESIS BELOW RIGHT", "COMBINING SQUARE BRACKETS ABOVE",
    "COMBINING NUMBER SIGN ABOVE", "COMBINING INVERTED DOUBLE ARCH ABOVE",
    "COMBINING PLUS SIGN ABOVE", "COMBINING DOUBLE PLUS SIGN ABOVE",
    "COMBINING DOUBLE PLUS SIGN BELOW", "COMBINING TRIPLE ACUTE ACCENT",
    "COMBINING LATIN SMALL LETTER INSULAR G", "COMBINING LATIN SMALL LETTER INSULAR R",
    "COMBINING LATIN SMALL LETTER INSULAR T"]),
  (0x1b00, ["BALINESE SIGN ULU RICEM", "BALINESE SIGN ULU CANDRA", "BALINESE SIGN CECEK",
    "BALINESE SIGN SURANG", "BALINESE SIGN BISAH"]),
  (0x1b34, ["BALINESE SIGN REREKAN", "BALINESE VOWEL SIGN TEDUNG", "BALINESE VOWEL SIGN ULU",
    "BALINESE VOWEL SIGN ULU SARI", "BALINESE VOWEL SIGN SUKU", "BALINESE VOWEL SIGN SUKU ILUT",
    "BALINESE VOWEL SIGN RA REPA", "BALINESE VOWEL SIGN RA REPA TEDUNG",
    "BALINESE VOWEL SIGN LA LENGA", "BALINESE VOWEL SIGN LA LENGA TEDUNG",
    "BALINESE VOWEL SIGN TALING", "BALINESE VOWEL SIGN TALING REPA",
    "BALINESE VOWEL SIGN TALING TEDUNG", "BALINESE VOWEL SIGN TALING REPA TEDUNG",
    "BALINESE VOWEL SIGN PEPET", "BALINESE VOWEL SIGN PEPET TEDUNG", "BALINESE ADEG ADEG"]),
  (0x1b6b, ["BALINESE MUSICAL SYMBOL COMBINING TEGEH", "BALINESE MUSICAL SYMBOL COMBINING ENDEP",
    "BALINESE MUSICAL SYMBOL COMBINING KEMPUL", "BALINESE MUSICAL SYMBOL COMBINING KEMPLI",
    "BALINESE MUSICAL SYMBOL COMBINING JEGOGAN",
    "BALINESE MUSICAL SYMBOL COMBINING KEMPUL WITH JEGOGAN",
    "BALINESE MUSICAL SYMBOL COMBINING KEMPLI WITH JEGOGAN",
    "BALINESE MUSICAL SYMBOL COMBINING BENDE", "BALINESE MUSICAL SYMBOL COMBINING GONG"]),
  (0x1b80, ["SUNDANESE SIGN PANYECEK", "SUNDANESE SIGN PANGLAYAR", "SUNDANESE SIGN PANGWISAD"]),
  (0x1ba1, ["SUNDANESE CONSONANT SIGN PAMINGKAL", "SUNDANESE CONSONANT SIGN PANYAKRA",
    "SUNDANESE CONSONANT SIGN PANYIKU", "SUNDANESE VOWEL SIGN PANGHULU",
    "SUNDANESE VOWEL SIGN PANYUKU", "SUNDANESE VOWEL SIGN PANAELAENG",
    "SUNDANESE VOWEL SIGN PANOLONG", "SUNDANESE VOWEL SIGN PAMEPET",
    "SUNDANESE VOWEL SIGN PANEULEUNG", "SUNDANESE SIGN PAMAAEH", "SUNDANESE SIGN VIRAMA",
    "SUNDANESE CONSONANT SIGN PASANGAN MA", "SUNDANESE CONSONANT SIGN PASANGAN WA"]),
  (0x1be6, ["BATAK SIGN TOMPI", "BATAK VOWEL SIGN E", "BATAK VOWEL SIGN PAKPAK E",
    "BATAK VOWEL SIGN EE", "BATAK VOWEL SIGN I", "BATAK VOWEL SIGN KARO I", "BATAK VOWEL SIGN O",
    "BATAK VOWEL SIGN KARO O", "BATAK VOWEL SIGN U", "BATAK VOWEL SIGN U FOR SIMALUNGUN SA",
    "BATAK CONSONANT SIGN NG", "BATAK CONSONANT SIGN H", "BATAK PANGOLAT", "BATAK PANONGONAN"]),
  (0x1c24, ["LEPCHA SUBJOINED LETTER YA", "LEPCHA SUBJOINED LETTER RA", "LEPCHA VOWEL SIGN AA",
    "LEPCHA VOWEL SIGN I", "LEPCHA VOWEL SIGN O", "LEPCHA VOWEL SIGN OO", "LEPCHA VOWEL SIGN U",
    "LEPCHA VOWEL SIGN UU", "LEPCHA VOWEL SIGN E", "LEPCHA CONSONANT SIGN K",
    "LEPCHA CONSONANT SIGN M", "LEPCHA CONSONANT SIGN L", "LEPCHA CONSONANT SIGN N",
    "LEPCHA CONSONANT SIGN P", "LEPCHA CONSONANT SIGN R", "LEPCHA CONSONANT SIGN T",
    "LEPCHA CONSONANT SIGN NYIN-DO", "LEPCHA CONSONANT SIGN KANG", "LEPCHA SIGN RAN",
    "LEPCHA SIGN NUKTA"]),
  (0x1cd0, ["VEDIC TONE KARSHANA", "VEDIC TONE SHARA", "VEDIC TONE PRENKHA"]),
  (0x1cd4, ["VEDIC SIGN YAJURVEDIC MIDLINE SVARITA",
    "VEDIC TONE YAJURVEDIC AGGRAVATED INDEPENDENT SVARITA",
    "VEDIC TONE YAJURVEDIC INDEPENDENT SVARITA",
    "VEDIC TONE YAJURVEDIC KATHAKA INDEPENDENT SVARITA", "VEDIC TONE CANDRA BELOW",
    "VEDIC TONE YAJURVEDIC KATHAKA INDEPENDENT SVARITA SCHROEDER", "VEDIC TONE DOUBLE SVARITA",
    "VEDIC TONE TRIPLE SVARITA", "VEDIC TONE KATHAKA ANUDATTA", "VEDIC TONE DOT BELOW",
    "VEDIC TONE TWO DOTS BELOW", "VEDIC TONE THREE DOTS BELOW",
    "VEDIC TONE RIGVEDIC KASHMIRI INDEPENDENT SVARITA",
    "VEDIC TONE ATHARVAVEDIC INDEPENDENT SVARITA", "VEDIC SIGN VISARGA SVARITA",
    "VEDIC SIGN VISARGA UDATTA", "VEDIC SIGN REVERSED VISARGA UDATTA",
    "VEDIC SIGN VISARGA ANUDATTA", "VEDIC SIGN REVERSED VISARGA ANUDATTA",
    "VEDIC SIGN VISARGA UDATTA WITH TAIL", "VEDIC SIGN VISARGA ANUDATTA WITH TAIL"]),
  (0x1ced, ["VEDIC SIGN TIRYAK"]),
  (0x1cf4, ["VEDIC TONE CANDRA ABOVE"]),
  (0x1cf7, ["VEDIC SIGN ATIKRAMA", "VEDIC TONE RING ABOVE", "VEDIC TONE DOUBLE RING ABOVE"]),
  (0x1dc0, ["COMBINING DOTTED GRAVE ACCENT", "COMBINING DOTTED ACUTE ACCENT",
    "COMBINING SNAKE BELOW", "COMBINING SUSPENSION MARK", "COMBINING MACRON-ACUTE",
    "COMBINING GRAVE-MACRON", "COMBINING MACRON-GRAVE", "COMBINING ACUTE-MACRON",
    "COMBINING GRAVE-ACUTE-GRAVE", "COMBINING ACUTE-GRAVE-ACUTE",
    "COMBINING LATIN SMALL LETTER R BELOW", "COMBINING BREVE-MACRON", "COMBINING MACRON-BREVE",
    "COMBINING DOUBLE CIRCUMFLEX ABOVE", "COMBINING OGONEK ABOVE", "COMBINING ZIGZAG BELOW",
    "COMBINING IS BELOW", "COMBINING UR ABOVE", "COMBINING US ABOVE",
    "COMBINING LATIN SMALL LETTER FLATTENED OPEN A ABOVE", "COMBINING LATIN SMALL LETTER AE",
    "COMBINING LATIN SMALL LETTER AO", "COMBINING LATIN SMALL LETTER AV",
    "COMBINING LATIN SMALL LETTER C CEDILLA", "COMBINING LATIN SMALL LETTER INSULAR D",
    "COMBINING LATIN SMALL LETTER ETH", "COMBINING LATIN SMALL LETTER G",
    "COMBINING LATIN LETTER SMALL CAPITAL G", "COMBINING LATIN SMALL LETTER K",
    "COMBINING LATIN SMALL LETTER L", "COMBINING LATIN LETTER SMALL CAPITAL L",
    "COMBINING LATIN LETTER SMALL CAPITAL M", "COMBINING LATIN SMALL LETTER N",
    "COMBINING LATIN LETTER SMALL CAPITAL N", "COMBINING LATIN LETTER SMALL CAPITAL R",
    "COMBINING LATIN SMALL LETTER R ROTUNDA", "COMBINING LATIN SMALL LETTER S",
    "COMBINING LATIN SMALL LETTER LONG S", "COMBINING LATIN SMALL LETTER Z",
    "COMBINING LATIN SMALL LETTER ALPHA", "COMBINING LATIN SMALL LETTER B",
    "COMBINING LATIN SMALL LETTER BETA", "COMBINING LATIN SMALL LETTER SCHWA",
    "COMBINING LATIN SMALL LETTER F", "COMBINING LATIN SMALL LETTER L WITH DOUBLE MIDDLE TILDE",
    "COMBINING LATIN SMALL LETTER O WITH LIGHT CENTRALIZATION STROKE",
    "COMBINING LATIN SMALL LETTER P", "COMBINING LATIN SMALL LETTER ESH",
    "COMBINING LATIN SMALL LETTER U WITH LIGHT CENTRALIZATION STROKE",
    "COMBINING LATIN SMALL LETTER W", "COMBINING LATIN SMALL LETTER A WITH DIAERESIS",
    "COMBINING LATIN SMALL LETTER O WITH DIAERESIS",
    "COMBINING LATIN SMALL LETTER U WITH DIAERESIS", "COMBINING UP TACK ABOVE",
    "COMBINING KAVYKA ABOVE RIGHT", "COMBINING KAVYKA ABOVE LEFT", "COMBINING DOT ABOVE LEFT",
    "COMBINING WIDE INVERTED BRIDGE BELOW", "COMBINING DOT BELOW LEFT", "COMBINING DELETION MARK",
    "COMBINING DOUBLE INVERTED BREVE BELOW", "COMBINING ALMOST EQUAL TO BELOW",
    "COMBINING LEFT ARROWHEAD ABOVE", "COMBINING RIGHT ARROWHEAD AND DOWN ARROWHEAD BELOW"]),
  (0x2000, ["EN QUAD", "EM QUAD", "EN SPACE", "EM SPACE", "THREE-PER-EM SPACE",
    "FOUR-PER-EM SPACE", "SIX-PER-EM SPACE", "FIGURE SPACE", "PUNCTUATION SPACE", "THIN SPACE",
    "HAIR SPACE", "ZERO WIDTH SPACE", "ZERO WIDTH NON-JOINER", "ZERO WIDTH JOINER",
    "LEFT-TO-RIGHT MARK", "RIGHT-TO-LEFT MARK"]),
  (0x2028, ["LINE SEPARATOR", "PARAGRAPH SEPARATOR", "LEFT-TO-RIGHT EMBEDDING",
    "RIGHT-TO-LEFT EMBEDDING", "POP DIRECTIONAL FORMATTING", "LEFT-TO-RIGHT OVERRIDE",
    "RIGHT-TO-LEFT OVERRIDE", "NARROW NO-BREAK SPACE"]),
  (0x205f, ["MEDIUM MATHEMATICAL SPACE", "WORD JOINER", "FUNCTION APPLICATION", "INVISIBLE TIMES",
    "INVISIBLE SEPARATOR", "INVISIBLE PLUS"]),
  (0x2066, ["LEFT-TO-RIGHT ISOLATE", "RIGHT-TO-LEFT ISOLATE", "FIRST STRONG ISOLATE",
    "POP DIRECTIONAL ISOLATE", "INHIBIT SYMMETRIC SWAPPING", "ACTIVATE SYMMETRIC SWAPPING",
    "INHIBIT ARABIC FORM SHAPING", "ACTIVATE ARABIC FORM SHAPING", "NATIONAL DIGIT SHAPES",
    "NOMINAL DIGIT SHAPES"]),
  (0x20d0, ["COMBINING LEFT HARPOON ABOVE", "COMBINING RIGHT HARPOON ABOVE",
    "COMBINING LONG VERTICAL LINE OVERLAY", "COMBINING SHORT VERTICAL LINE OVERLAY",
    "COMBINING ANTICLOCKWISE ARROW ABOVE", "COMBINING CLOCKWISE ARROW ABOVE",
    "COMBINING LEFT ARROW ABOVE", "COMBINING RIGHT ARROW ABOVE", "COMBINING RING OVERLAY",
    "COMBINING CLOCKWISE RING OVERLAY", "COMBINING ANTICLOCKWISE RING OVERLAY",
    "COMBINING THREE DOTS ABOVE", "COMBINING FOUR DOTS ABOVE", "COMBINING ENCLOSING CIRCLE",
    "COMBINING ENCLOSING SQUARE", "COMBINING ENCLOSING DIAMOND",
    "COMBINING ENCLOSING CIRCLE BACKSLASH", "COMBINING LEFT RIGHT ARROW ABOVE",
    "COMBINING ENCLOSING SCREEN", "COMBINING ENCLOSING KEYCAP",
    "COMBINING ENCLOSING UPWARD POINTING TRIANGLE", "COMBINING REVERSE SOLIDUS OVERLAY",
    "COMBINING DOUBLE VERTICAL STROKE OVERLAY", "COMBINING ANNUITY SYMBOL",
    "COMBINING TRIPLE UNDERDOT", "COMBINING WIDE BRIDGE ABOVE",
    "COMBINING LEFTWARDS ARROW OVERLAY", "COMBINING LONG DOUBLE SOLIDUS OVERLAY",
    "COMBINING RIGHTWARDS HARPOON WITH BARB DOWNWARDS",
    "COMBINING LEFTWARDS HARPOON WITH BARB DOWNWARDS", "COMBINING LEFT ARROW BELOW",
    "COMBINING RIGHT ARROW BELOW", "COMBINING ASTERISK ABOVE"]),
  (0x2cef, ["COPTIC COMBINING NI ABOVE", "COPTIC COMBINING SPIRITUS ASPER",
    "COPTIC COMBINING SPIRITUS LENIS"]),
  (0x2d7f, ["TIFINAGH CONSONANT JOINER"]),
  (0x2de0, ["COMBINING CYRILLIC LETTER BE", "COMBINING CYRILLIC LETTER VE",
    "COMBINING CYRILLIC LETTER GHE", "COMBINING CYRILLIC LETTER DE",
    "COMBINING CYRILLIC LETTER ZHE", "COMBINING CYRILLIC LETTER ZE",
    "COMBINING CYRILLIC LETTER KA", "COMBINING CYRILLIC LETTER EL", "COMBINING CYRILLIC LETTER EM",
    "COMBINING CYRILLIC LETTER EN", "COMBINING CYRILLIC LETTER O", "COMBINING CYRILLIC LETTER PE",
    "COMBINING CYRILLIC LETTER ER", "COMBINING CYRILLIC LETTER ES", "COMBINING CYRILLIC LETTER TE",
    "COMBINING CYRILLIC LETTER HA", "COMBINING CYRILLIC LETTER TSE",
    "COMBINING CYRILLIC LETTER CHE", "COMBINING CYRILLIC LETTER SHA",
    "COMBINING CYRILLIC LETTER SHCHA", "COMBINING CYRILLIC LETTER FITA",
    "COMBINING CYRILLIC LETTER ES-TE", "COMBINING CYRILLIC LETTER A",
    "COMBINING CYRILLIC LETTER IE", "COMBINING CYRILLIC LETTER DJERV",
    "COMBINING CYRILLIC LETTER MONOGRAPH UK", "COMBINING CYRILLIC LETTER YAT",
    "COMBINING CYRILLIC LETTER YU", "COMBINING CYRILLIC LETTER IOTIFIED A",
    "COMBINING CYRILLIC LETTER LITTLE YUS", "COMBINING CYRILLIC LETTER BIG YUS",
    "COMBINING CYRILLIC LETTER IOTIFIED BIG YUS"]),
  (0x3000, ["IDEOGRAPHIC SPACE"]),
  (0x302a, ["IDEOGRAPHIC LEVEL TONE MARK", "IDEOGRAPHIC RISING TONE MARK",
    "IDEOGRAPHIC DEPARTING TONE MARK", "IDEOGRAPHIC ENTERING TONE MARK",
    "HANGUL SINGLE DOT TONE MARK", "HANGUL DOUBLE DOT TONE MARK"]),
  (0x3099, ["COMBINING KATAKANA-HIRAGANA VOICED SOUND MARK",
    "COMBINING KATAKANA-HIRAGANA SEMI-VOICED SOUND MARK"]),
  (0xa66f, ["COMBINING CYRILLIC VZMET", "COMBINING CYRILLIC TEN MILLIONS SIGN",
    "COMBINING CYRILLIC HUNDRED MILLIONS SIGN", "COMBINING CYRILLIC THOUSAND MILLIONS SIGN"]),
  (0xa674, ["COMBINING CYRILLIC LETTER UKRAINIAN IE", "COMBINING CYRILLIC LETTER I",
    "COMBINING CYRILLIC LETTER YI", "COMBINING CYRILLIC LETTER U",
    "COMBINING CYRILLIC LETTER HARD SIGN", "COMBINING CYRILLIC LETTER YERU",
    "COMBINING CYRILLIC LETTER SOFT SIGN", "COMBINING CYRILLIC LETTER OMEGA",
    "COMBINING CYRILLIC KAVYKA", "COMBINING CYRILLIC PAYEROK"]),
  (0xa69e, ["COMBINING CYRILLIC LETTER EF", "COMBINING CYRILLIC LETTER IOTIFIED E"]),
  (0xa6f0, ["BAMUM COMBINING MARK KOQNDON", "BAMUM COMBINING MARK TUKWENTIS"]),
  (0xa802, ["SYLOTI NAGRI SIGN DVISVARA"]),
  (0xa806, ["SYLOTI NAGRI SIGN HASANTA"]),
  (0xa80b, ["SYLOTI NAGRI SIGN ANUSVARA"]),
  (0xa823, ["SYLOTI NAGRI VOWEL SIGN A", "SYLOTI NAGRI VOWEL SIGN I", "SYLOTI NAGRI VOWEL SIGN U",
    "SYLOTI NAGRI VOWEL SIGN E", "SYLOTI NAGRI VOWEL SIGN OO"]),
  (0xa82c, ["SYLOTI NAGRI SIGN ALTERNATE HASANTA"]),
  (0xa880, ["SAURASHTRA SIGN ANUSVARA", "SAURASHTRA SIGN VISARGA"]),
  (0xa8b4, ["SAURASHTRA CONSONANT SIGN HAARU", "SAURASHTRA VOWEL SIGN AA",
    "SAURASHTRA VOWEL SIGN I", "SAURASHTRA VOWEL SIGN II", "SAURASHTRA VOWEL SIGN U",
    "SAURASHTRA VOWEL SIGN UU", "SAURASHTRA VOWEL SIGN VOCALIC R",
    "SAURASHTRA VOWEL SIGN VOCALIC RR", "SAURASHTRA VOWEL SIGN VOCALIC L",
    "SAURASHTRA VOWEL SIGN VOCALIC LL", "SAURASHTRA VOWEL SIGN E", "SAURASHTRA VOWEL SIGN EE",
    "SAURASHTRA VOWEL SIGN AI", "SAURASHTRA VOWEL SIGN O", "SAURASHTRA VOWEL SIGN OO",
    "SAURASHTRA VOWEL SIGN AU", "SAURASHTRA SIGN VIRAMA", "SAURASHTRA SIGN CANDRABINDU"]),
  (0xa8e0, ["COMBINING DEVANAGARI DIGIT ZERO", "COMBINING DEVANAGARI DIGIT ONE",
    "COMBINING DEVANAGARI DIGIT TWO", "COMBINING DEVANAGARI DIGIT THREE",
    "COMBINING DEVANAGARI DIGIT FOUR", "COMBINING DEVANAGARI DIGIT FIVE",
    "COMBINING DEVANAGARI DIGIT SIX", "COMBINING DEVANAGARI DIGIT SEVEN",
    "COMBINING DEVANAGARI DIGIT EIGHT", "COMBINING DEVANAGARI DIGIT NINE",
    "COMBINING DEVANAGARI LETTER A", "COMBINING DEVANAGARI LETTER U",
    "COMBINING DEVANAGARI LETTER KA", "COMBINING DEVANAGARI LETTER NA",
    "COMBINING DEVANAGARI LETTER PA", "COMBINING DEVANAGARI LETTER RA",
    "COMBINING DEVANAGARI LETTER VI", "COMBINING DEVANAGARI SIGN AVAGRAHA"]),
  (0xa8ff, ["DEVANAGARI VOWEL SIGN AY"]),
  (0xa926, ["KAYAH LI VOWEL UE", "KAYAH LI VOWEL E", "KAYAH LI VOWEL U", "KAYAH LI VOWEL EE",
    "KAYAH LI VOWEL O", "KAYAH LI TONE PLOPHU", "KAYAH LI TONE CALYA",
    "KAYAH LI TONE CALYA PLOPHU"]),
  (0xa947, ["REJANG VOWEL SIGN I", "REJANG VOWEL SIGN U", "REJANG VOWEL SIGN E",
    "REJANG VOWEL SIGN AI", "REJANG VOWEL SIGN O", "REJANG VOWEL SIGN AU", "REJANG VOWEL SIGN EU",
    "REJANG VOWEL SIGN EA", "REJANG CONSONANT SIGN NG", "REJANG CONSONANT SIGN N",
    "REJANG CONSONANT SIGN R", "REJANG CONSONANT SIGN H", "REJANG VIRAMA"]),
  (0xa980, ["JAVANESE SIGN PANYANGGA", "JAVANESE SIGN CECAK", "JAVANESE SIGN LAYAR",
    "JAVANESE SIGN WIGNYAN"]),
  (0xa9b3, ["JAVANESE SIGN CECAK TELU", "JAVANESE VOWEL SIGN TARUNG", "JAVANESE VOWEL SIGN TOLONG",
    "JAVANESE VOWEL SIGN WULU", "JAVANESE VOWEL SIGN WULU MELIK", "JAVANESE VOWEL SIGN SUKU",
    "JAVANESE VOWEL SIGN SUKU MENDUT", "JAVANESE VOWEL SIGN TALING",
    "JAVANESE VOWEL SIGN DIRGA MURE", "JAVANESE VOWEL SIGN PEPET", "JAVANESE CONSONANT SIGN KERET",
    "JAVANESE CONSONANT SIGN PENGKAL", "JAVANESE CONSONANT SIGN CAKRA", "JAVANESE PANGKON"]),
  (0xa9e5, ["MYANMAR SIGN SHAN SAW"]),
  (0xaa29, ["CHAM VOWEL SIGN AA", "CHAM VOWEL SIGN I", "CHAM VOWEL SIGN II", "CHAM VOWEL SIGN EI",
    "CHAM VOWEL SIGN U", "CHAM VOWEL SIGN OE", "CHAM VOWEL SIGN O", "CHAM VOWEL SIGN AI",
    "CHAM VOWEL SIGN AU", "CHAM VOWEL SIGN UE", "CHAM CONSONANT SIGN YA", "CHAM CONSONANT SIGN RA",
    "CHAM CONSONANT SIGN LA", "CHAM CONSONANT SIGN WA"]),
  (0xaa43, ["CHAM CONSONANT SIGN FINAL NG"]),
  (0xaa4c, ["CHAM CONSONANT SIGN FINAL M", "CHAM CONSONANT SIGN FINAL H"]),
  (0xaa7b, ["MYANMAR SIGN PAO KAREN TONE", "MYANMAR SIGN TAI LAING TONE-2",
    "MYANMAR SIGN TAI LAING TONE-5"]),
  (0xaab0, ["TAI VIET MAI KANG"]),
  (0xaab2, ["TAI VIET VOWEL I", "TAI VIET VOWEL UE", "TAI VIET VOWEL U"]),
  (0xaab7, ["TAI VIET MAI KHIT", "TAI VIET VOWEL IA"]),
  (0xaabe, ["TAI VIET VOWEL AM", "TAI VIET TONE MAI EK"]),
  (0xaac1, ["TAI VIET TONE MAI THO"]),
  (0xaaeb, ["MEETEI MAYEK VOWEL SIGN II", "MEETEI MAYEK VOWEL SIGN UU",
    "MEETEI MAYEK VOWEL SIGN AAI", "MEETEI MAYEK VOWEL SIGN AU", "MEETEI MAYEK VOWEL SIGN AAU"]),
  (0xaaf5, ["MEETEI MAYEK VOWEL SIGN VISARGA", "MEETEI MAYEK VIRAMA"]),
  (0xabe3, ["MEETEI MAYEK VOWEL SIGN ONAP", "MEETEI MAYEK VOWEL SIGN INAP",
    "MEETEI MAYEK VOWEL SIGN ANAP", "MEETEI MAYEK VOWEL SIGN YENAP",
    "MEETEI MAYEK VOWEL SIGN SOUNAP", "MEETEI MAYEK VOWEL SIGN UNAP",
    "MEETEI MAYEK VOWEL SIGN CHEINAP", "MEETEI MAYEK VOWEL SIGN NUNG"]),
  (0xabec, ["MEETEI MAYEK LUM IYEK", "MEETEI MAYEK APUN IYEK"]),
  (0xfb1e, ["HEBREW POINT JUDEO-SPANISH VARIKA"]),
  (0xfe00, ["VARIATION SELECTOR-1", "VARIATION SELECTOR-2", "VARIATION SELECTOR-3",
    "VARIATION SELECTOR-4", "VARIATION SELECTOR-5", "VARIATION SELECTOR-6", "VARIATION SELECTOR-7",
    "VARIATION SELECTOR-8", "VARIATION SELECTOR-9", "VARIATION SELECTOR-10",
    "VARIATION SELECTOR-11", "VARIATION SELECTOR-12", "VARIATION SELECTOR-13",
    "VARIATION SELECTOR-14", "VARIATION SELECTOR-15", "VARIATION SELECTOR-16"]),
  (0xfe20, ["COMBINING LIGATURE LEFT HALF", "COMBINING LIGATURE RIGHT HALF",
    "COMBINING DOUBLE TILDE LEFT HALF", "COMBINING DOUBLE TILDE RIGHT HALF",
    "COMBINING MACRON LEFT HALF", "COMBINING MACRON RIGHT HALF", "COMBINING CONJOINING MACRON",
    "COMBINING LIGATURE LEFT HALF BELOW", "COMBINING LIGATURE RIGHT HALF BELOW",
    "COMBINING TILDE LEFT HALF BELOW", "COMBINING TILDE RIGHT HALF BELOW",
    "COMBINING MACRON LEFT HALF BELOW", "COMBINING MACRON RIGHT HALF BELOW",
    "COMBINING CONJOINING MACRON BELOW", "COMBINING CYRILLIC TITLO LEFT HALF",
    "COMBINING CYRILLIC TITLO RIGHT HALF"]),
  (0xfeff, ["ZERO WIDTH NO-BREAK SPACE"]),
  (0xfff9, ["INTERLINEAR ANNOTATION ANCHOR", "INTERLINEAR ANNOTATION SEPARATOR",
    "INTERLINEAR ANNOTATION TERMINATOR"]),
  (0x101fd, ["PHAISTOS DISC SIGN COMBINING OBLIQUE STROKE"]),
  (0x102e0, ["COPTIC EPACT THOUSANDS MARK"]),
  (0x10376, ["COMBINING OLD PERMIC LETTER AN", "COMBINING OLD PERMIC LETTER DOI",
    "COMBINING OLD PERMIC LETTER ZATA", "COMBINING OLD PERMIC LETTER NENOE",
    "COMBINING OLD PERMIC LETTER SII"]),
  (0x10a01, ["KHAROSHTHI VOWEL SIGN I", "KHAROSHTHI VOWEL SIGN U",
    "KHAROSHTHI VOWEL SIGN VOCALIC R"]),
  (0x10a05, ["KHAROSHTHI VOWEL SIGN E", "KHAROSHTHI VOWEL SIGN O"]),
  (0x10a0c, ["KHAROSHTHI VOWEL LENGTH MARK", "KHAROSHTHI SIGN DOUBLE RING BELOW",
    "KHAROSHTHI SIGN ANUSVARA", "KHAROSHTHI SIGN VISARGA"]),
  (0x10a38, ["KHAROSHTHI SIGN BAR ABOVE", "KHAROSHTHI SIGN CAUDA", "KHAROSHTHI SIGN DOT BELOW"]),
  (0x10a3f, ["KHAROSHTHI VIRAMA"]),
  (0x10ae5, ["MANICHAEAN ABBREVIATION MARK ABOVE", "MANICHAEAN ABBREVIATION MARK BELOW"]),
  (0x10d24, ["HANIFI ROHINGYA SIGN HARBAHAY", "HANIFI ROHINGYA SIGN TAHALA",
    "HANIFI ROHINGYA SIGN TANA", "HANIFI ROHINGYA SIGN TASSI"]),
  (0x10eab, ["YEZIDI COMBINING HAMZA MARK", "YEZIDI COMBINING MADDA MARK"]),
  (0x10f46, ["SOGDIAN COMBINING DOT BELOW", "SOGDIAN COMBINING TWO DOTS BELOW",
    "SOGDIAN COMBINING DOT ABOVE", "SOGDIAN COMBINING TWO DOTS ABOVE",
    "SOGDIAN COMBINING CURVE ABOVE", "SOGDIAN COMBINING CURVE BELOW",
    "SOGDIAN COMBINING HOOK ABOVE", "SOGDIAN COMBINING HOOK BELOW",
    "SOGDIAN COMBINING LONG HOOK BELOW", "SOGDIAN COMBINING RESH BELOW",
    "SOGDIAN COMBINING STROKE BELOW"]),
  (0x10f82, ["OLD UYGHUR COMBINING DOT ABOVE", "OLD UYGHUR COMBINING DOT BELOW",
    "OLD UYGHUR COMBINING TWO DOTS ABOVE", "OLD UYGHUR COMBINING TWO DOTS BELOW"]),
  (0x11000, ["BRAHMI SIGN CANDRABINDU", "BRAHMI SIGN ANUSVARA", "BRAHMI SIGN VISARGA"]),
  (0x11038, ["BRAHMI VOWEL SIGN AA", "BRAHMI VOWEL SIGN BHATTIPROLU AA", "BRAHMI VOWEL SIGN I",
    "BRAHMI VOWEL SIGN II", "BRAHMI VOWEL SIGN U", "BRAHMI VOWEL SIGN UU",
    "BRAHMI VOWEL SIGN VOCALIC R", "BRAHMI VOWEL SIGN VOCALIC RR", "BRAHMI VOWEL SIGN VOCALIC L",
    "BRAHMI VOWEL SIGN VOCALIC LL", "BRAHMI VOWEL SIGN E", "BRAHMI VOWEL SIGN AI",
    "BRAHMI VOWEL SIGN O", "BRAHMI VOWEL SIGN AU", "BRAHMI VIRAMA"]),
  (0x11070, ["BRAHMI SIGN OLD TAMIL VIRAMA"]),
  (0x11073, ["BRAHMI VOWEL SIGN OLD TAMIL SHORT E", "BRAHMI VOWEL SIGN OLD TAMIL SHORT O"]),
  (0x1107f, ["BRAHMI NUMBER JOINER", "KAITHI SIGN CANDRABINDU", "KAITHI SIGN ANUSVARA",
    "KAITHI SIGN VISARGA"]),
  (0x110b0, ["KAITHI VOWEL SIGN AA", "KAITHI VOWEL SIGN I", "KAITHI VOWEL SIGN II",
    "KAITHI VOWEL SIGN U", "KAITHI VOWEL SIGN UU", "KAITHI VOWEL SIGN E", "KAITHI VOWEL SIGN AI",
    "KAITHI VOWEL SIGN O", "KAITHI VOWEL SIGN AU", "KAITHI SIGN VIRAMA", "KAITHI SIGN NUKTA"]),
  (0x110bd, ["KAITHI NUMBER SIGN"]),
  (0x110c2, ["KAITHI VOWEL SIGN VOCALIC R"]),
  (0x110cd, ["KAITHI NUMBER SIGN ABOVE"]),
  (0x11100, ["CHAKMA SIGN CANDRABINDU", "CHAKMA SIGN ANUSVARA", "CHAKMA SIGN VISARGA"]),
  (0x11127, ["CHAKMA VOWEL SIGN A", "CHAKMA VOWEL SIGN I", "CHAKMA VOWEL SIGN II",
    "CHAKMA VOWEL SIGN U", "CHAKMA VOWEL SIGN UU", "CHAKMA VOWEL SIGN E", "CHAKMA VOWEL SIGN AI",
    "CHAKMA VOWEL SIGN O", "CHAKMA VOWEL SIGN AU", "CHAKMA VOWEL SIGN OI", "CHAKMA O MARK",
    "CHAKMA AU MARK", "CHAKMA VIRAMA", "CHAKMA MAAYYAA"]),
  (0x11145, ["CHAKMA VOWEL SIGN AA", "CHAKMA VOWEL SIGN EI"]),
  (0x11173, ["MAHAJANI SIGN NUKTA"]),
  (0x11180, ["SHARADA SIGN CANDRABINDU", "SHARADA SIGN ANUSVARA", "SHARADA SIGN VISARGA"]),
  (0x111b3, ["SHARADA VOWEL SIGN AA", "SHARADA VOWEL SIGN I", "SHARADA VOWEL SIGN II",
    "SHARADA VOWEL SIGN U", "SHARADA VOWEL SIGN UU", "SHARADA VOWEL SIGN VOCALIC R",
    "SHARADA VOWEL SIGN VOCALIC RR", "SHARADA VOWEL SIGN VOCALIC L",
    "SHARADA VOWEL SIGN VOCALIC LL", "SHARADA VOWEL SIGN E", "SHARADA VOWEL SIGN AI",
    "SHARADA VOWEL SIGN O", "SHARADA VOWEL SIGN AU", "SHARADA SIGN VIRAMA"]),
  (0x111c9, ["SHARADA SANDHI MARK", "SHARADA SIGN NUKTA", "SHARADA VOWEL MODIFIER MARK",
    "SHARADA EXTRA SHORT VOWEL MARK"]),
  (0x111ce, ["SHARADA VOWEL SIGN PRISHTHAMATRA E", "SHARADA SIGN INVERTED CANDRABINDU"]),
  (0x1122c, ["KHOJKI VOWEL SIGN AA", "KHOJKI VOWEL SIGN I", "KHOJKI VOWEL SIGN II",
    "KHOJKI VOWEL SIGN U", "KHOJKI VOWEL SIGN E", "KHOJKI VOWEL SIGN AI", "KHOJKI VOWEL SIGN O",
    "KHOJKI VOWEL SIGN AU", "KHOJKI SIGN ANUSVARA", "KHOJKI SIGN VIRAMA", "KHOJKI SIGN NUKTA",
    "KHOJKI SIGN SHADDA"]),
  (0x1123e, ["KHOJKI SIGN SUKUN"]),
  (0x112df, ["KHUDAWADI SIGN ANUSVARA", "KHUDAWADI VOWEL SIGN AA", "KHUDAWADI VOWEL SIGN I",
    "KHUDAWADI VOWEL SIGN II", "KHUDAWADI VOWEL SIGN U", "KHUDAWADI VOWEL SIGN UU",
    "KHUDAWADI VOWEL SIGN E", "KHUDAWADI VOWEL SIGN AI", "KHUDAWADI VOWEL SIGN O",
    "KHUDAWADI VOWEL SIGN AU", "KHUDAWADI SIGN NUKTA", "KHUDAWADI SIGN VIRAMA"]),
  (0x11300, ["GRANTHA SIGN COMBINING ANUSVARA ABOVE", "GRANTHA SIGN CANDRABINDU",
    "GRANTHA SIGN ANUSVARA", "GRANTHA SIGN VISARGA"]),
  (0x1133b, ["COMBINING BINDU BELOW", "GRANTHA SIGN NUKTA"]),
  (0x1133e, ["GRANTHA VOWEL SIGN AA", "GRANTHA VOWEL SIGN I", "GRANTHA VOWEL SIGN II",
    "GRANTHA VOWEL SIGN U", "GRANTHA VOWEL SIGN UU", "GRANTHA VOWEL SIGN VOCALIC R",
    "GRANTHA VOWEL SIGN VOCALIC RR"]),
  (0x11347, ["GRANTHA VOWEL SIGN EE", "GRANTHA VOWEL SIGN AI"]),
  (0x1134b, ["GRANTHA VOWEL SIGN OO", "GRANTHA VOWEL SIGN AU", "GRANTHA SIGN VIRAMA"]),
  (0x11357, ["GRANTHA AU LENGTH MARK"]),
  (0x11362, ["GRANTHA VOWEL SIGN VOCALIC L", "GRANTHA VOWEL SIGN VOCALIC LL"]),
  (0x11366, ["COMBINING GRANTHA DIGIT ZERO", "COMBINING GRANTHA DIGIT ONE",
    "COMBINING GRANTHA DIGIT TWO", "COMBINING GRANTHA DIGIT THREE", "COMBINING GRANTHA DIGIT FOUR",
    "COMBINING GRANTHA DIGIT FIVE", "COMBINING GRANTHA DIGIT SIX"]),
  (0x11370, ["COMBINING GRANTHA LETTER A", "COMBINING GRANTHA LETTER KA",
    "COMBINING GRANTHA LETTER NA", "COMBINING GRANTHA LETTER VI", "COMBINING GRANTHA LETTER PA"]),
  (0x11435, ["NEWA VOWEL SIGN AA", "NEWA VOWEL SIGN I", "NEWA VOWEL SIGN II", "NEWA VOWEL SIGN U",
    "NEWA VOWEL SIGN UU", "NEWA VOWEL SIGN VOCALIC R", "NEWA VOWEL SIGN VOCALIC RR",
    "NEWA VOWEL SIGN VOCALIC L", "NEWA VOWEL SIGN VOCALIC LL", "NEWA VOWEL SIGN E",
    "NEWA VOWEL SIGN AI", "NEWA VOWEL SIGN O", "NEWA VOWEL SIGN AU", "NEWA SIGN VIRAMA",
    "NEWA SIGN CANDRABINDU", "NEWA SIGN ANUSVARA", "NEWA SIGN VISARGA", "NEWA SIGN NUKTA"]),
  (0x1145e, ["NEWA SANDHI MARK"]),
  (0x114b0, ["TIRHUTA VOWEL SIGN AA", "TIRHUTA VOWEL SIGN I", "TIRHUTA VOWEL SIGN II",
    "TIRHUTA VOWEL SIGN U", "TIRHUTA VOWEL SIGN UU", "TIRHUTA VOWEL SIGN VOCALIC R",
    "TIRHUTA VOWEL SIGN VOCALIC RR", "TIRHUTA VOWEL SIGN VOCALIC L",
    "TIRHUTA VOWEL SIGN VOCALIC LL", "TIRHUTA VOWEL SIGN E", "TIRHUTA VOWEL SIGN SHORT E",
    "TIRHUTA VOWEL SIGN AI", "TIRHUTA VOWEL SIGN O", "TIRHUTA VOWEL SIGN SHORT O",
    "TIRHUTA VOWEL SIGN AU", "TIRHUTA SIGN CANDRABINDU", "TIRHUTA SIGN ANUSVARA",
    "TIRHUTA SIGN VISARGA", "TIRHUTA SIGN VIRAMA", "TIRHUTA SIGN NUKTA"]),
  (0x115af, ["SIDDHAM VOWEL SIGN AA", "SIDDHAM VOWEL SIGN I", "SIDDHAM VOWEL SIGN II",
    "SIDDHAM VOWEL SIGN U", "SIDDHAM VOWEL SIGN UU", "SIDDHAM VOWEL SIGN VOCALIC R",
    "SIDDHAM VOWEL SIGN VOCALIC RR"]),
  (0x115b8, ["SIDDHAM VOWEL SIGN E", "SIDDHAM VOWEL SIGN AI", "SIDDHAM VOWEL SIGN O",
    "SIDDHAM VOWEL SIGN AU", "SIDDHAM SIGN CANDRABINDU", "SIDDHAM SIGN ANUSVARA",
    "SIDDHAM SIGN VISARGA", "SIDDHAM SIGN VIRAMA", "SIDDHAM SIGN NUKTA"]),
  (0x115dc, ["SIDDHAM VOWEL SIGN ALTERNATE U", "SIDDHAM VOWEL SIGN ALTERNATE UU"]),
  (0x11630, ["MODI VOWEL SIGN AA", "MODI VOWEL SIGN I", "MODI VOWEL SIGN II", "MODI VOWEL SIGN U",
    "MODI VOWEL SIGN UU", "MODI VOWEL SIGN VOCALIC R", "MODI VOWEL SIGN VOCALIC RR",
    "MODI VOWEL SIGN VOCALIC L", "MODI VOWEL SIGN VOCALIC LL", "MODI VOWEL SIGN E",
    "MODI VOWEL SIGN AI", "MODI VOWEL SIGN O", "MODI VOWEL SIGN AU", "MODI SIGN ANUSVARA",
    "MODI SIGN VISARGA", "MODI SIGN VIRAMA", "MODI SIGN ARDHACANDRA"]),
  (0x116ab, ["TAKRI SIGN ANUSVARA", "TAKRI SIGN VISARGA", "TAKRI VOWEL SIGN AA",
    "TAKRI VOWEL SIGN I", "TAKRI VOWEL SIGN II", "TAKRI VOWEL SIGN U", "TAKRI VOWEL SIGN UU",
    "TAKRI VOWEL SIGN E", "TAKRI VOWEL SIGN AI", "TAKRI VOWEL SIGN O", "TAKRI VOWEL SIGN AU",
    "TAKRI SIGN VIRAMA", "TAKRI SIGN NUKTA"]),
  (0x1171d, ["AHOM CONSONANT SIGN MEDIAL LA", "AHOM CONSONANT SIGN MEDIAL RA",
    "AHOM CONSONANT SIGN MEDIAL LIGATING RA", "AHOM VOWEL SIGN A", "AHOM VOWEL SIGN AA",
    "AHOM VOWEL SIGN I", "AHOM VOWEL SIGN II", "AHOM VOWEL SIGN U", "AHOM VOWEL SIGN UU",
    "AHOM VOWEL SIGN E", "AHOM VOWEL SIGN AW", "AHOM VOWEL SIGN O", "AHOM VOWEL SIGN AI",
    "AHOM VOWEL SIGN AM", "AHOM SIGN KILLER"]),
  (0x1182c, ["DOGRA VOWEL SIGN AA", "DOGRA VOWEL SIGN I", "DOGRA VOWEL SIGN II",
    "DOGRA VOWEL SIGN U", "DOGRA VOWEL SIGN UU", "DOGRA VOWEL SIGN VOCALIC R",
    "DOGRA VOWEL SIGN VOCALIC RR", "DOGRA VOWEL SIGN E", "DOGRA VOWEL SIGN AI",
    "DOGRA VOWEL SIGN O", "DOGRA VOWEL SIGN AU", "DOGRA SIGN ANUSVARA", "DOGRA SIGN VISARGA",
    "DOGRA SIGN VIRAMA", "DOGRA SIGN NUKTA"]),
  (0x11930, ["DIVES AKURU VOWEL SIGN AA", "DIVES AKURU VOWEL SIGN I", "DIVES AKURU VOWEL SIGN II",
    "DIVES AKURU VOWEL SIGN U", "DIVES AKURU VOWEL SIGN UU", "DIVES AKURU VOWEL SIGN E"]),
  (0x11937, ["DIVES AKURU VOWEL SIGN AI", "DIVES AKURU VOWEL SIGN O"]),
  (0x1193b, ["DIVES AKURU SIGN ANUSVARA", "DIVES AKURU SIGN CANDRABINDU",
    "DIVES AKURU SIGN HALANTA", "DIVES AKURU VIRAMA"]),
  (0x11940, ["DIVES AKURU MEDIAL YA"]),
  (0x11942, ["DIVES AKURU MEDIAL RA", "DIVES AKURU SIGN NUKTA"]),
  (0x119d1, ["NANDINAGARI VOWEL SIGN AA", "NANDINAGARI VOWEL SIGN I", "NANDINAGARI VOWEL SIGN II",
    "NANDINAGARI VOWEL SIGN U", "NANDINAGARI VOWEL SIGN UU", "NANDINAGARI VOWEL SIGN VOCALIC R",
    "NANDINAGARI VOWEL SIGN VOCALIC RR"]),
  (0x119da, ["NANDINAGARI VOWEL SIGN E", "NANDINAGARI VOWEL SIGN AI", "NANDINAGARI VOWEL SIGN O",
    "NANDINAGARI VOWEL SIGN AU", "NANDINAGARI SIGN ANUSVARA", "NANDINAGARI SIGN VISARGA",
    "NANDINAGARI SIGN VIRAMA"]),
  (0x119e4, ["NANDINAGARI VOWEL SIGN PRISHTHAMATRA E"]),
  (0x11a01, ["ZANABAZAR SQUARE VOWEL SIGN I", "ZANABAZAR SQUARE VOWEL SIGN UE",
    "ZANABAZAR SQUARE VOWEL SIGN U", "ZANABAZAR SQUARE VOWEL SIGN E",
    "ZANABAZAR SQUARE VOWEL SIGN OE", "ZANABAZAR SQUARE VOWEL SIGN O",
    "ZANABAZAR SQUARE VOWEL SIGN AI", "ZANABAZAR SQUARE VOWEL SIGN AU",
    "ZANABAZAR SQUARE VOWEL SIGN REVERSED I", "ZANABAZAR SQUARE VOWEL LENGTH MARK"]),
  (0x11a33, ["ZANABAZAR SQUARE FINAL CONSONANT MARK", "ZANABAZAR SQUARE SIGN VIRAMA",
    "ZANABAZAR SQUARE SIGN CANDRABINDU", "ZANABAZAR SQUARE SIGN CANDRABINDU WITH ORNAMENT",
    "ZANABAZAR SQUARE SIGN CANDRA WITH ORNAMENT", "ZANABAZAR SQUARE SIGN ANUSVARA",
    "ZANABAZAR SQUARE SIGN VISARGA"]),
  (0x11a3b, ["ZANABAZAR SQUARE CLUSTER-FINAL LETTER YA",
    "ZANABAZAR SQUARE CLUSTER-FINAL LETTER RA", "ZANABAZAR SQUARE CLUSTER-FINAL LETTER LA",
    "ZANABAZAR SQUARE CLUSTER-FINAL LETTER VA"]),
  (0x11a47, ["ZANABAZAR SQUARE SUBJOINER"]),
  (0x11a51, ["SOYOMBO VOWEL SIGN I", "SOYOMBO VOWEL SIGN UE", "SOYOMBO VOWEL SIGN U",
    "SOYOMBO VOWEL SIGN E", "SOYOMBO VOWEL SIGN O", "SOYOMBO VOWEL SIGN OE",
    "SOYOMBO VOWEL SIGN AI", "SOYOMBO VOWEL SIGN AU", "SOYOMBO VOWEL SIGN VOCALIC R",
    "SOYOMBO VOWEL SIGN VOCALIC L", "SOYOMBO VOWEL LENGTH MARK"]),
  (0x11a8a, ["SOYOMBO FINAL CONSONANT SIGN G", "SOYOMBO FINAL CONSONANT SIGN K",
    "SOYOMBO FINAL CONSONANT SIGN NG", "SOYOMBO FINAL CONSONANT SIGN D",
    "SOYOMBO FINAL CONSONANT SIGN N", "SOYOMBO FINAL CONSONANT SIGN B",
    "SOYOMBO FINAL CONSONANT SIGN M", "SOYOMBO FINAL CONSONANT SIGN R",
    "SOYOMBO FINAL CONSONANT SIGN L", "SOYOMBO FINAL CONSONANT SIGN SH",
    "SOYOMBO FINAL CONSONANT SIGN S", "SOYOMBO FINAL CONSONANT SIGN -A", "SOYOMBO SIGN ANUSVARA",
    "SOYOMBO SIGN VISARGA", "SOYOMBO GEMINATION MARK", "SOYOMBO SUBJOINER"]),
  (0x11c2f, ["BHAIKSUKI VOWEL SIGN AA", "BHAIKSUKI VOWEL SIGN I", "BHAIKSUKI VOWEL SIGN II",
    "BHAIKSUKI VOWEL SIGN U", "BHAIKSUKI VOWEL SIGN UU", "BHAIKSUKI VOWEL SIGN VOCALIC R",
    "BHAIKSUKI VOWEL SIGN VOCALIC RR", "BHAIKSUKI VOWEL SIGN VOCALIC L"]),
  (0x11c38, ["BHAIKSUKI VOWEL SIGN E", "BHAIKSUKI VOWEL SIGN AI", "BHAIKSUKI VOWEL SIGN O",
    "BHAIKSUKI VOWEL SIGN AU", "BHAIKSUKI SIGN CANDRABINDU", "BHAIKSUKI SIGN ANUSVARA",
    "BHAIKSUKI SIGN VISARGA", "BHAIKSUKI SIGN VIRAMA"]),
  (0x11c92, ["MARCHEN SUBJOINED LETTER KA", "MARCHEN SUBJOINED LETTER KHA",
    "MARCHEN SUBJOINED LETTER GA", "MARCHEN SUBJOINED LETTER NGA", "MARCHEN SUBJOINED LETTER CA",
    "MARCHEN SUBJOINED LETTER CHA", "MARCHEN SUBJOINED LETTER JA", "MARCHEN SUBJOINED LETTER NYA",
    "MARCHEN SUBJOINED LETTER TA", "MARCHEN SUBJOINED LETTER THA", "MARCHEN SUBJOINED LETTER DA",
    "MARCHEN SUBJOINED LETTER NA", "MARCHEN SUBJOINED LETTER PA", "MARCHEN SUBJOINED LETTER PHA",
    "MARCHEN SUBJOINED LETTER BA", "MARCHEN SUBJOINED LETTER MA", "MARCHEN SUBJOINED LETTER TSA",
    "MARCHEN SUBJOINED LETTER TSHA", "MARCHEN SUBJOINED LETTER DZA", "MARCHEN SUBJOINED LETTER WA",
    "MARCHEN SUBJOINED LETTER ZHA", "MARCHEN SUBJOINED LETTER ZA"]),
  (0x11ca9, ["MARCHEN SUBJOINED LETTER YA", "MARCHEN SUBJOINED LETTER RA",
    "MARCHEN SUBJOINED LETTER LA", "MARCHEN SUBJOINED LETTER SHA", "MARCHEN SUBJOINED LETTER SA",
    "MARCHEN SUBJOINED LETTER HA", "MARCHEN SUBJOINED LETTER A", "MARCHEN VOWEL SIGN AA",
    "MARCHEN VOWEL SIGN I", "MARCHEN VOWEL SIGN U", "MARCHEN VOWEL SIGN E", "MARCHEN VOWEL SIGN O",
    "MARCHEN SIGN ANUSVARA", "MARCHEN SIGN CANDRABINDU"]),
  (0x11d31, ["MASARAM GONDI VOWEL SIGN AA", "MASARAM GONDI VOWEL SIGN I",
    "MASARAM GONDI VOWEL SIGN II", "MASARAM GONDI VOWEL SIGN U", "MASARAM GONDI VOWEL SIGN UU",
    "MASARAM GONDI VOWEL SIGN VOCALIC R"]),
  (0x11d3a, ["MASARAM GONDI VOWEL SIGN E"]),
  (0x11d3c, ["MASARAM GONDI VOWEL SIGN AI", "MASARAM GONDI VOWEL SIGN O"]),
  (0x11d3f, ["MASARAM GONDI VOWEL SIGN AU", "MASARAM GONDI SIGN ANUSVARA",
    "MASARAM GONDI SIGN VISARGA", "MASARAM GONDI SIGN NUKTA", "MASARAM GONDI SIGN CANDRA",
    "MASARAM GONDI SIGN HALANTA", "MASARAM GONDI VIRAMA"]),
  (0x11d47, ["MASARAM GONDI RA-KARA"]),
  (0x11d8a, ["GUNJALA GONDI VOWEL SIGN AA", "GUNJALA GONDI VOWEL SIGN I",
    "GUNJALA GONDI VOWEL SIGN II", "GUNJALA GONDI VOWEL SIGN U", "GUNJALA GONDI VOWEL SIGN UU"]),
  (0x11d90, ["GUNJALA GONDI VOWEL SIGN EE", "GUNJALA GONDI VOWEL SIGN AI"]),
  (0x11d93, ["GUNJALA GONDI VOWEL SIGN OO", "GUNJALA GONDI VOWEL SIGN AU",
    "GUNJALA GONDI SIGN ANUSVARA", "GUNJALA GONDI SIGN VISARGA", "GUNJALA GONDI VIRAMA"]),
  (0x11ef3, ["MAKASAR VOWEL SIGN I", "MAKASAR VOWEL SIGN U", "MAKASAR VOWEL SIGN E",
    "MAKASAR VOWEL SIGN O"]),
  (0x13430, ["EGYPTIAN HIEROGLYPH VERTICAL JOINER", "EGYPTIAN HIEROGLYPH HORIZONTAL JOINER",
    "EGYPTIAN HIEROGLYPH INSERT AT TOP START", "EGYPTIAN HIEROGLYPH INSERT AT BOTTOM START",
    "EGYPTIAN HIEROGLYPH INSERT AT TOP END", "EGYPTIAN HIEROGLYPH INSERT AT BOTTOM END",
    "EGYPTIAN HIEROGLYPH OVERLAY MIDDLE", "EGYPTIAN HIEROGLYPH BEGIN SEGMENT",
    "EGYPTIAN HIEROGLYPH END SEGMENT"]),
  (0x16af0, ["BASSA VAH COMBINING HIGH TONE", "BASSA VAH COMBINING LOW TONE",
    "BASSA VAH COMBINING MID TONE", "BASSA VAH COMBINING LOW-MID TONE",
    "BASSA VAH COMBINING HIGH-LOW TONE"]),
  (0x16b30, ["PAHAWH HMONG MARK CIM TUB", "PAHAWH HMONG MARK CIM SO", "PAHAWH HMONG MARK CIM KES",
    "PAHAWH HMONG MARK CIM KHAV", "PAHAWH HMONG MARK CIM SUAM", "PAHAWH HMONG MARK CIM HOM",
    "PAHAWH HMONG MARK CIM TAUM"]),
  (0x16f4f, ["MIAO SIGN CONSONANT MODIFIER BAR"]),
  (0x16f51, ["MIAO SIGN ASPIRATION", "MIAO SIGN REFORMED VOICING", "MIAO SIGN REFORMED ASPIRATION",
    "MIAO VOWEL SIGN A", "MIAO VOWEL SIGN AA", "MIAO VOWEL SIGN AHH", "MIAO VOWEL SIGN AN",
    "MIAO VOWEL SIGN ANG", "MIAO VOWEL SIGN O", "MIAO VOWEL SIGN OO", "MIAO VOWEL SIGN WO",
    "MIAO VOWEL SIGN W", "MIAO VOWEL SIGN E", "MIAO VOWEL SIGN EN", "MIAO VOWEL SIGN ENG",
    "MIAO VOWEL SIGN OEY", "MIAO VOWEL SIGN I", "MIAO VOWEL SIGN IA", "MIAO VOWEL SIGN IAN",
    "MIAO VOWEL SIGN IANG", "MIAO VOWEL SIGN IO", "MIAO VOWEL SIGN IE", "MIAO VOWEL SIGN II",
    "MIAO VOWEL SIGN IU", "MIAO VOWEL SIGN ING", "MIAO VOWEL SIGN U", "MIAO VOWEL SIGN UA",
    "MIAO VOWEL SIGN UAN", "MIAO VOWEL SIGN UANG", "MIAO VOWEL SIGN UU", "MIAO VOWEL SIGN UEI",
    "MIAO VOWEL SIGN UNG", "MIAO VOWEL SIGN Y", "MIAO VOWEL SIGN YI", "MIAO VOWEL SIGN AE",
    "MIAO VOWEL SIGN AEE", "MIAO VOWEL SIGN ERR", "MIAO VOWEL SIGN ROUNDED ERR",
    "MIAO VOWEL SIGN ER", "MIAO VOWEL SIGN ROUNDED ER", "MIAO VOWEL SIGN AI", "MIAO VOWEL SIGN EI",
    "MIAO VOWEL SIGN AU", "MIAO VOWEL SIGN OU", "MIAO VOWEL SIGN N", "MIAO VOWEL SIGN NG",
    "MIAO VOWEL SIGN UOG", "MIAO VOWEL SIGN YUI", "MIAO VOWEL SIGN OG", "MIAO VOWEL SIGN OER",
    "MIAO VOWEL SIGN VW", "MIAO VOWEL SIGN IG", "MIAO VOWEL SIGN EA", "MIAO VOWEL SIGN IONG",
    "MIAO VOWEL SIGN UI"]),
  (0x16f8f, ["MIAO TONE RIGHT", "MIAO TONE TOP RIGHT", "MIAO TONE ABOVE", "MIAO TONE BELOW"]),
  (0x16fe4, ["KHITAN SMALL SCRIPT FILLER"]),
  (0x16ff0, ["VIETNAMESE ALTERNATE READING MARK CA", "VIETNAMESE ALTERNATE READING MARK NHAY"]),
  (0x1bc9d, ["DUPLOYAN THICK LETTER SELECTOR", "DUPLOYAN DOUBLE MARK"]),
  (0x1bca0, ["SHORTHAND FORMAT LETTER OVERLAP", "SHORTHAND FORMAT CONTINUING OVERLAP",
    "SHORTHAND FORMAT DOWN STEP", "SHORTHAND FORMAT UP STEP"]),
  (0x1cf00, ["ZNAMENNY COMBINING MARK GORAZDO NIZKO S KRYZHEM ON LEFT",
    "ZNAMENNY COMBINING MARK NIZKO S KRYZHEM ON LEFT", "ZNAMENNY COMBINING MARK TSATA ON LEFT",
    "ZNAMENNY COMBINING MARK GORAZDO NIZKO ON LEFT", "ZNAMENNY COMBINING MARK NIZKO ON LEFT",
    "ZNAMENNY COMBINING MARK SREDNE ON LEFT", "ZNAMENNY COMBINING MARK MALO POVYSHE ON LEFT",
    "ZNAMENNY COMBINING MARK POVYSHE ON LEFT", "ZNAMENNY COMBINING MARK VYSOKO ON LEFT",
    "ZNAMENNY COMBINING MARK MALO POVYSHE S KHOKHLOM ON LEFT",
    "ZNAMENNY COMBINING MARK POVYSHE S KHOKHLOM ON LEFT",
    "ZNAMENNY COMBINING MARK VYSOKO S KHOKHLOM ON LEFT",
    "ZNAMENNY COMBINING MARK GORAZDO NIZKO S KRYZHEM ON RIGHT",
    "ZNAMENNY COMBINING MARK NIZKO S KRYZHEM ON RIGHT", "ZNAMENNY COMBINING MARK TSATA ON RIGHT",
    "ZNAMENNY COMBINING MARK GORAZDO NIZKO ON RIGHT", "ZNAMENNY COMBINING MARK NIZKO ON RIGHT",
    "ZNAMENNY COMBINING MARK SREDNE ON RIGHT", "ZNAMENNY COMBINING MARK MALO POVYSHE ON RIGHT",
    "ZNAMENNY COMBINING MARK POVYSHE ON RIGHT", "ZNAMENNY COMBINING MARK VYSOKO ON RIGHT",
    "ZNAMENNY COMBINING MARK MALO POVYSHE S KHOKHLOM ON RIGHT",
    "ZNAMENNY COMBINING MARK POVYSHE S KHOKHLOM ON RIGHT",
    "ZNAMENNY COMBINING MARK VYSOKO S KHOKHLOM ON RIGHT",
    "ZNAMENNY COMBINING MARK TSATA S KRYZHEM", "ZNAMENNY COMBINING MARK MALO POVYSHE S KRYZHEM",
    "ZNAMENNY COMBINING MARK STRANNO MALO POVYSHE", "ZNAMENNY COMBINING MARK POVYSHE S KRYZHEM",
    "ZNAMENNY COMBINING MARK POVYSHE STRANNO", "ZNAMENNY COMBINING MARK VYSOKO S KRYZHEM",
    "ZNAMENNY COMBINING MARK MALO POVYSHE STRANNO", "ZNAMENNY COMBINING MARK GORAZDO VYSOKO",
    "ZNAMENNY COMBINING MARK ZELO", "ZNAMENNY COMBINING MARK ON", "ZNAMENNY COMBINING MARK RAVNO",
    "ZNAMENNY COMBINING MARK TIKHAYA", "ZNAMENNY COMBINING MARK BORZAYA",
    "ZNAMENNY COMBINING MARK UDARKA", "ZNAMENNY COMBINING MARK PODVERTKA",
    "ZNAMENNY COMBINING MARK LOMKA", "ZNAMENNY COMBINING MARK KUPNAYA",
    "ZNAMENNY COMBINING MARK KACHKA", "ZNAMENNY COMBINING MARK ZEVOK",
    "ZNAMENNY COMBINING MARK SKOBA", "ZNAMENNY COMBINING MARK RAZSEKA",
    "ZNAMENNY COMBINING MARK KRYZH ON LEFT"]),
  (0x1cf30, ["ZNAMENNY COMBINING TONAL RANGE MARK MRACHNO",
    "ZNAMENNY COMBINING TONAL RANGE MARK SVETLO", "ZNAMENNY COMBINING TONAL RANGE MARK TRESVETLO",
    "ZNAMENNY COMBINING MARK ZADERZHKA", "ZNAMENNY COMBINING MARK DEMESTVENNY ZADERZHKA",
    "ZNAMENNY COMBINING MARK OTSECHKA", "ZNAMENNY COMBINING MARK PODCHASHIE",
    "ZNAMENNY COMBINING MARK PODCHASHIE WITH VERTICAL STROKE", "ZNAMENNY COMBINING MARK CHASHKA",
    "ZNAMENNY COMBINING MARK CHASHKA POLNAYA", "ZNAMENNY COMBINING MARK OBLACHKO",
    "ZNAMENNY COMBINING MARK SOROCHYA NOZHKA", "ZNAMENNY COMBINING MARK TOCHKA",
    "ZNAMENNY COMBINING MARK DVOETOCHIE", "ZNAMENNY COMBINING ATTACHING VERTICAL OMET",
    "ZNAMENNY COMBINING MARK CURVED OMET", "ZNAMENNY COMBINING MARK KRYZH",
    "ZNAMENNY COMBINING LOWER TONAL RANGE INDICATOR", "ZNAMENNY PRIZNAK MODIFIER LEVEL-2",
    "ZNAMENNY PRIZNAK MODIFIER LEVEL-3", "ZNAMENNY PRIZNAK MODIFIER DIRECTION FLIP",
    "ZNAMENNY PRIZNAK MODIFIER KRYZH", "ZNAMENNY PRIZNAK MODIFIER ROG"]),
  (0x1d165, ["MUSICAL SYMBOL COMBINING STEM", "MUSICAL SYMBOL COMBINING SPRECHGESANG STEM",
    "MUSICAL SYMBOL COMBINING TREMOLO-1", "MUSICAL SYMBOL COMBINING TREMOLO-2",
    "MUSICAL SYMBOL COMBINING TREMOLO-3"]),
  (0x1d16d, ["MUSICAL SYMBOL COMBINING AUGMENTATION DOT", "MUSICAL SYMBOL COMBINING FLAG-1",
    "MUSICAL SYMBOL COMBINING FLAG-2", "MUSICAL SYMBOL COMBINING FLAG-3",
    "MUSICAL SYMBOL COMBINING FLAG-4", "MUSICAL SYMBOL COMBINING FLAG-5",
    "MUSICAL SYMBOL BEGIN BEAM", "MUSICAL SYMBOL END BEAM", "MUSICAL SYMBOL BEGIN TIE",
    "MUSICAL SYMBOL END TIE", "MUSICAL SYMBOL BEGIN SLUR", "MUSICAL SYMBOL END SLUR",
    "MUSICAL SYMBOL BEGIN PHRASE", "MUSICAL SYMBOL END PHRASE", "MUSICAL SYMBOL COMBINING ACCENT",
    "MUSICAL SYMBOL COMBINING STACCATO", "MUSICAL SYMBOL COMBINING TENUTO",
    "MUSICAL SYMBOL COMBINING STACCATISSIMO", "MUSICAL SYMBOL COMBINING MARCATO",
    "MUSICAL SYMBOL COMBINING MARCATO-STACCATO", "MUSICAL SYMBOL COMBINING ACCENT-STACCATO",
    "MUSICAL SYMBOL COMBINING LOURE"]),
  (0x1d185, ["MUSICAL SYMBOL COMBINING DOIT", "MUSICAL SYMBOL COMBINING RIP",
    "MUSICAL SYMBOL COMBINING FLIP", "MUSICAL SYMBOL COMBINING SMEAR",
    "MUSICAL SYMBOL COMBINING BEND", "MUSICAL SYMBOL COMBINING DOUBLE TONGUE",
    "MUSICAL SYMBOL COMBINING TRIPLE TONGUE"]),
  (0x1d1aa, ["MUSICAL SYMBOL COMBINING DOWN BOW", "MUSICAL SYMBOL COMBINING UP BOW",
    "MUSICAL SYMBOL COMBINING HARMONIC", "MUSICAL SYMBOL COMBINING SNAP PIZZICATO"]),
  (0x1d242, ["COMBINING GREEK MUSICAL TRISEME", "COMBINING GREEK MUSICAL TETRASEME",
    "COMBINING GREEK MUSICAL PENTASEME"]),
  (0x1da00, ["SIGNWRITING HEAD RIM", "SIGNWRITING HEAD MOVEMENT-WALLPLANE STRAIGHT",
    "SIGNWRITING HEAD MOVEMENT-WALLPLANE TILT", "SIGNWRITING HEAD MOVEMENT-FLOORPLANE STRAIGHT",
    "SIGNWRITING HEAD MOVEMENT-WALLPLANE CURVE", "SIGNWRITING HEAD MOVEMENT-FLOORPLANE CURVE",
    "SIGNWRITING HEAD MOVEMENT CIRCLE", "SIGNWRITING FACE DIRECTION POSITION NOSE FORWARD TILTING",
    "SIGNWRITING FACE DIRECTION POSITION NOSE UP OR DOWN",
    "SIGNWRITING FACE DIRECTION POSITION NOSE UP OR DOWN TILTING",
    "SIGNWRITING EYEBROWS STRAIGHT UP", "SIGNWRITING EYEBROWS STRAIGHT NEUTRAL",
    "SIGNWRITING EYEBROWS STRAIGHT DOWN", "SIGNWRITING DREAMY EYEBROWS NEUTRAL DOWN",
    "SIGNWRITING DREAMY EYEBROWS DOWN NEUTRAL", "SIGNWRITING DREAMY EYEBROWS UP NEUTRAL",
    "SIGNWRITING DREAMY EYEBROWS NEUTRAL UP", "SIGNWRITING FOREHEAD NEUTRAL",
    "SIGNWRITING FOREHEAD CONTACT", "SIGNWRITING FOREHEAD WRINKLED", "SIGNWRITING EYES OPEN",
    "SIGNWRITING EYES SQUEEZED", "SIGNWRITING EYES CLOSED", "SIGNWRITING EYE BLINK SINGLE",
    "SIGNWRITING EYE BLINK MULTIPLE", "SIGNWRITING EYES HALF OPEN", "SIGNWRITING EYES WIDE OPEN",
    "SIGNWRITING EYES HALF CLOSED", "SIGNWRITING EYES WIDENING MOVEMENT", "SIGNWRITING EYE WINK",
    "SIGNWRITING EYELASHES UP", "SIGNWRITING EYELASHES DOWN", "SIGNWRITING EYELASHES FLUTTERING",
    "SIGNWRITING EYEGAZE-WALLPLANE STRAIGHT", "SIGNWRITING EYEGAZE-WALLPLANE STRAIGHT DOUBLE",
    "SIGNWRITING EYEGAZE-WALLPLANE STRAIGHT ALTERNATING",
    "SIGNWRITING EYEGAZE-FLOORPLANE STRAIGHT", "SIGNWRITING EYEGAZE-FLOORPLANE STRAIGHT DOUBLE",
    "SIGNWRITING EYEGAZE-FLOORPLANE STRAIGHT ALTERNATING", "SIGNWRITING EYEGAZE-WALLPLANE CURVED",
    "SIGNWRITING EYEGAZE-FLOORPLANE CURVED", "SIGNWRITING EYEGAZE-WALLPLANE CIRCLING",
    "SIGNWRITING CHEEKS PUFFED", "SIGNWRITING CHEEKS NEUTRAL", "SIGNWRITING CHEEKS SUCKED",
    "SIGNWRITING TENSE CHEEKS HIGH", "SIGNWRITING TENSE CHEEKS MIDDLE",
    "SIGNWRITING TENSE CHEEKS LOW", "SIGNWRITING EARS", "SIGNWRITING NOSE NEUTRAL",
    "SIGNWRITING NOSE CONTACT", "SIGNWRITING NOSE WRINKLES", "SIGNWRITING NOSE WIGGLES",
    "SIGNWRITING AIR BLOWING OUT", "SIGNWRITING AIR SUCKING IN"]),
  (0x1da3b, ["SIGNWRITING MOUTH CLOSED NEUTRAL", "SIGNWRITING MOUTH CLOSED FORWARD",
    "SIGNWRITING MOUTH CLOSED CONTACT", "SIGNWRITING MOUTH SMILE",
    "SIGNWRITING MOUTH SMILE WRINKLED", "SIGNWRITING MOUTH SMILE OPEN", "SIGNWRITING MOUTH FROWN",
    "SIGNWRITING MOUTH FROWN WRINKLED", "SIGNWRITING MOUTH FROWN OPEN",
    "SIGNWRITING MOUTH OPEN CIRCLE", "SIGNWRITING MOUTH OPEN FORWARD",
    "SIGNWRITING MOUTH OPEN WRINKLED", "SIGNWRITING MOUTH OPEN OVAL",
    "SIGNWRITING MOUTH OPEN OVAL WRINKLED", "SIGNWRITING MOUTH OPEN OVAL YAWN",
    "SIGNWRITING MOUTH OPEN RECTANGLE", "SIGNWRITING MOUTH OPEN RECTANGLE WRINKLED",
    "SIGNWRITING MOUTH OPEN RECTANGLE YAWN", "SIGNWRITING MOUTH KISS",
    "SIGNWRITING MOUTH KISS FORWARD", "SIGNWRITING MOUTH KISS WRINKLED", "SIGNWRITING MOUTH TENSE",
    "SIGNWRITING MOUTH TENSE FORWARD", "SIGNWRITING MOUTH TENSE SUCKED",
    "SIGNWRITING LIPS PRESSED TOGETHER", "SIGNWRITING LIP LOWER OVER UPPER",
    "SIGNWRITING LIP UPPER OVER LOWER", "SIGNWRITING MOUTH CORNERS",
    "SIGNWRITING MOUTH WRINKLES SINGLE", "SIGNWRITING MOUTH WRINKLES DOUBLE",
    "SIGNWRITING TONGUE STICKING OUT FAR", "SIGNWRITING TONGUE LICKING LIPS",
    "SIGNWRITING TONGUE TIP BETWEEN LIPS", "SIGNWRITING TONGUE TIP TOUCHING INSIDE MOUTH",
    "SIGNWRITING TONGUE INSIDE MOUTH RELAXED", "SIGNWRITING TONGUE MOVES AGAINST CHEEK",
    "SIGNWRITING TONGUE CENTRE STICKING OUT", "SIGNWRITING TONGUE CENTRE INSIDE MOUTH",
    "SIGNWRITING TEETH", "SIGNWRITING TEETH MOVEMENT", "SIGNWRITING TEETH ON TONGUE",
    "SIGNWRITING TEETH ON TONGUE MOVEMENT", "SIGNWRITING TEETH ON LIPS",
    "SIGNWRITING TEETH ON LIPS MOVEMENT", "SIGNWRITING TEETH BITE LIPS",
    "SIGNWRITING MOVEMENT-WALLPLANE JAW", "SIGNWRITING MOVEMENT-FLOORPLANE JAW",
    "SIGNWRITING NECK", "SIGNWRITING HAIR", "SIGNWRITING EXCITEMENT"]),
  (0x1da75, ["SIGNWRITING UPPER BODY TILTING FROM HIP JOINTS"]),
  (0x1da84, ["SIGNWRITING LOCATION HEAD NECK"]),
  (0x1da9b, ["SIGNWRITING FILL MODIFIER-2", "SIGNWRITING FILL MODIFIER-3",
    "SIGNWRITING FILL MODIFIER-4", "SIGNWRITING FILL MODIFIER-5", "SIGNWRITING FILL MODIFIER-6"]),
  (0x1daa1, ["SIGNWRITING ROTATION MODIFIER-2", "SIGNWRITING ROTATION MODIFIER-3",
    "SIGNWRITING ROTATION MODIFIER-4", "SIGNWRITING ROTATION MODIFIER-5",
    "SIGNWRITING ROTATION MODIFIER-6", "SIGNWRITING ROTATION MODIFIER-7",
    "SIGNWRITING ROTATION MODIFIER-8", "SIGNWRITING ROTATION MODIFIER-9",
    "SIGNWRITING ROTATION MODIFIER-10", "SIGNWRITING ROTATION MODIFIER-11",
    "SIGNWRITING ROTATION MODIFIER-12", "SIGNWRITING ROTATION MODIFIER-13",
    "SIGNWRITING ROTATION MODIFIER-14", "SIGNWRITING ROTATION MODIFIER-15",
    "SIGNWRITING ROTATION MODIFIER-16"]),
  (0x1e000, ["COMBINING GLAGOLITIC LETTER AZU", "COMBINING GLAGOLITIC LETTER BUKY",
    "COMBINING GLAGOLITIC LETTER VEDE", "COMBINING GLAGOLITIC LETTER GLAGOLI",
    "COMBINING GLAGOLITIC LETTER DOBRO", "COMBINING GLAGOLITIC LETTER YESTU",
    "COMBINING GLAGOLITIC LETTER ZHIVETE"]),
  (0x1e008, ["COMBINING GLAGOLITIC LETTER ZEMLJA", "COMBINING GLAGOLITIC LETTER IZHE",
    "COMBINING GLAGOLITIC LETTER INITIAL IZHE", "COMBINING GLAGOLITIC LETTER I",
    "COMBINING GLAGOLITIC LETTER DJERVI", "COMBINING GLAGOLITIC LETTER KAKO",
    "COMBINING GLAGOLITIC LETTER LJUDIJE", "COMBINING GLAGOLITIC LETTER MYSLITE",
    "COMBINING GLAGOLITIC LETTER NASHI", "COMBINING GLAGOLITIC LETTER ONU",
    "COMBINING GLAGOLITIC LETTER POKOJI", "COMBINING GLAGOLITIC LETTER RITSI",
    "COMBINING GLAGOLITIC LETTER SLOVO", "COMBINING GLAGOLITIC LETTER TVRIDO",
    "COMBINING GLAGOLITIC LETTER UKU", "COMBINING GLAGOLITIC LETTER FRITU",
    "COMBINING GLAGOLITIC LETTER HERU"]),
  (0x1e01b, ["COMBINING GLAGOLITIC LETTER SHTA", "COMBINING GLAGOLITIC LETTER TSI",
    "COMBINING GLAGOLITIC LETTER CHRIVI", "COMBINING GLAGOLITIC LETTER SHA",
    "COMBINING GLAGOLITIC LETTER YERU", "COMBINING GLAGOLITIC LETTER YERI",
    "COMBINING GLAGOLITIC LETTER YATI"]),
  (0x1e023, ["COMBINING GLAGOLITIC LETTER YU", "COMBINING GLAGOLITIC LETTER SMALL YUS"]),
  (0x1e026, ["COMBINING GLAGOLITIC LETTER YO", "COMBINING GLAGOLITIC LETTER IOTATED SMALL YUS",
    "COMBINING GLAGOLITIC LETTER BIG YUS", "COMBINING GLAGOLITIC LETTER IOTATED BIG YUS",
    "COMBINING GLAGOLITIC LETTER FITA"]),
  (0x1e130, ["NYIAKENG PUACHUE HMONG TONE-B", "NYIAKENG PUACHUE HMONG TONE-M",
    "NYIAKENG PUACHUE HMONG TONE-J", "NYIAKENG PUACHUE HMONG TONE-V",
    "NYIAKENG PUACHUE HMONG TONE-S", "NYIAKENG PUACHUE HMONG TONE-G",
    "NYIAKENG PUACHUE HMONG TONE-D"]),
  (0x1e2ae, ["TOTO SIGN RISING TONE"]),
  (0x1e2ec, ["WANCHO TONE TUP", "WANCHO TONE TUPNI", "WANCHO TONE KOI", "WANCHO TONE KOINI"]),
  (0x1e8d0, ["MENDE KIKAKUI COMBINING NUMBER TEENS", "MENDE KIKAKUI COMBINING NUMBER TENS",
    "MENDE KIKAKUI COMBINING NUMBER HUNDREDS", "MENDE KIKAKUI COMBINING NUMBER THOUSANDS",
    "MENDE KIKAKUI COMBINING NUMBER TEN THOUSANDS",
    "MENDE KIKAKUI COMBINING NUMBER HUNDRED THOUSANDS",
    "MENDE KIKAKUI COMBINING NUMBER MILLIONS"]),
  (0x1e944, ["ADLAM ALIF LENGTHENER", "ADLAM VOWEL LENGTHENER", "ADLAM GEMINATION MARK",
    "ADLAM HAMZA", "ADLAM CONSONANT MODIFIER", "ADLAM GEMINATE CONSONANT MODIFIER",
    "ADLAM NUKTA"]),
  (0xe0001, ["LANGUAGE TAG"]),
  (0xe0020, ["TAG SPACE", "TAG EXCLAMATION MARK", "TAG QUOTATION MARK", "TAG NUMBER SIGN",
    "TAG DOLLAR SIGN", "TAG PERCENT SIGN", "TAG AMPERSAND", "TAG APOSTROPHE",
    "TAG LEFT PARENTHESIS", "TAG RIGHT PARENTHESIS", "TAG ASTERISK", "TAG PLUS SIGN", "TAG COMMA",
    "TAG HYPHEN-MINUS", "TAG FULL STOP", "TAG SOLIDUS", "TAG DIGIT ZERO", "TAG DIGIT ONE",
    "TAG DIGIT TWO", "TAG DIGIT THREE", "TAG DIGIT FOUR", "TAG DIGIT FIVE", "TAG DIGIT SIX",
    "TAG DIGIT SEVEN", "TAG DIGIT EIGHT", "TAG DIGIT NINE", "TAG COLON", "TAG SEMICOLON",
    "TAG LESS-THAN SIGN", "TAG EQUALS SIGN", "TAG GREATER-THAN SIGN", "TAG QUESTION MARK",
    "TAG COMMERCIAL AT", "TAG LATIN CAPITAL LETTER A", "TAG LATIN CAPITAL LETTER B",
    "TAG LATIN CAPITAL LETTER C", "TAG LATIN CAPITAL LETTER D", "TAG LATIN CAPITAL LETTER E",
    "TAG LATIN CAPITAL LETTER F", "TAG LATIN CAPITAL LETTER G", "TAG LATIN CAPITAL LETTER H",
    "TAG LATIN CAPITAL LETTER I", "TAG LATIN CAPITAL LETTER J", "TAG LATIN CAPITAL LETTER K",
    "TAG LATIN CAPITAL LETTER L", "TAG LATIN CAPITAL LETTER M", "TAG LATIN CAPITAL LETTER N",
    "TAG LATIN CAPITAL LETTER O", "TAG LATIN CAPITAL LETTER P", "TAG LATIN CAPITAL LETTER Q",
    "TAG LATIN CAPITAL LETTER R", "TAG LATIN CAPITAL LETTER S", "TAG LATIN CAPITAL LETTER T",
    "TAG LATIN CAPITAL LETTER U", "TAG LATIN CAPITAL LETTER V", "TAG LATIN CAPITAL LETTER W",
    "TAG LATIN CAPITAL LETTER X", "TAG LATIN CAPITAL LETTER Y", "TAG LATIN CAPITAL LETTER Z",
    "TAG LEFT SQUARE BRACKET", "TAG REVERSE SOLIDUS", "TAG RIGHT SQUARE BRACKET",
    "TAG CIRCUMFLEX ACCENT", "TAG LOW LINE", "TAG GRAVE ACCENT", "TAG LATIN SMALL LETTER A",
    "TAG LATIN SMALL LETTER B", "TAG LATIN SMALL LETTER C", "TAG LATIN SMALL LETTER D",
    "TAG LATIN SMALL LETTER E", "TAG LATIN SMALL LETTER F", "TAG LATIN SMALL LETTER G",
    "TAG LATIN SMALL LETTER H", "TAG LATIN SMALL LETTER I", "TAG LATIN SMALL LETTER J",
    "TAG LATIN SMALL LETTER K", "TAG LATIN SMALL LETTER L", "TAG LATIN SMALL LETTER M",
    "TAG LATIN SMALL LETTER N", "TAG LATIN SMALL LETTER O", "TAG LATIN SMALL LETTER P",
    "TAG LATIN SMALL LETTER Q", "TAG LATIN SMALL LETTER R", "TAG LATIN SMALL LETTER S",
    "TAG LATIN SMALL LETTER T", "TAG LATIN SMALL LETTER U", "TAG LATIN SMALL LETTER V",
    "TAG LATIN SMALL LETTER W", "TAG LATIN SMALL LETTER X", "TAG LATIN SMALL LETTER Y",
    "TAG LATIN SMALL LETTER Z", "TAG LEFT CURLY BRACKET", "TAG VERTICAL LINE",
    "TAG RIGHT CURLY BRACKET", "TAG TILDE", "CANCEL TAG"])]

/-- The code point of a character in hexadecimal digits. -/
def codeText (c : Char) : String :=
  let places := if c.toNat < 0xffff then 4 else 8
  "U+" ++ String.ofList ((hexPadded places c.toNat).map Char.toUpper)

/-- The characters that choose the look of the one before them, as far as they are only numbered. -/
def firstSelector : Nat := 0xe0100

def selectorCount : Nat := 240

/-- The name of a character that is not visible by itself, if it has one. -/
def name? (c : Char) : Option String :=
  if firstSelector ≤ c.toNat ∧ c.toNat < firstSelector + selectorCount then
    some ("VARIATION SELECTOR-" ++ toString (c.toNat - firstSelector + 17))
  else
    nameRuns.findSome? fun (first, names) =>
      if first ≤ c.toNat then names[c.toNat - first]? else none

/-- A character as a message names it. -/
def characterName (c : Char) : String :=
  if c = '\\' then "\x22\\\x22"
  else if isPrintable c && !isMark c && c ≠ ' ' then String.ofList (quoted [c])
  else if c = ' ' then "SPACE"
  else (name? c).getD (codeText c)

end Outreach.Text
