/-!
# Names of characters

The names that Unicode gives to characters, and the names that control characters go by. Letter case
does not matter in a name. Ideographs are named by their numbers.

The names of Latin, Greek and Cyrillic letters, of punctuation, currency signs and arrows, and of
the signs and pictures in common use are known here. Other names are not.
-/

namespace DifferenceTypes.CharacterName

/-- Entries of a character's number and one of its names, with a semicolon behind every entry. -/
def table : String :=
  "0 NUL; 0 NULL; 1 SOH; 1 START OF HEADING; 2 START OF TEXT; 2 STX; 3 END OF TEXT; 3 ETX;
   4 END OF TRANSMISSION; 4 EOT; 5 ENQ; 5 ENQUIRY; 6 ACK; 6 ACKNOWLEDGE; 7 ALERT; 7 BEL;
   8 BACKSPACE; 8 BS; 9 CHARACTER TABULATION; 9 HORIZONTAL TABULATION; 9 HT; 9 TAB; A END OF LINE;
   A EOL; A LF; A LINE FEED; A NEW LINE; A NL; B LINE TABULATION; B VERTICAL TABULATION; B VT; C FF;
   C FORM FEED; D CARRIAGE RETURN; D CR; E LOCKING-SHIFT ONE; E SHIFT OUT; E SO;
   F LOCKING-SHIFT ZERO; F SHIFT IN; F SI; 10 DATA LINK ESCAPE; 10 DLE; 11 DC1;
   11 DEVICE CONTROL ONE; 12 DC2; 12 DEVICE CONTROL TWO; 13 DC3; 13 DEVICE CONTROL THREE; 14 DC4;
   14 DEVICE CONTROL FOUR; 15 NAK; 15 NEGATIVE ACKNOWLEDGE; 16 SYN; 16 SYNCHRONOUS IDLE;
   17 END OF TRANSMISSION BLOCK; 17 ETB; 18 CAN; 18 CANCEL; 19 END OF MEDIUM; 19 EOM; 1A SUB;
   1A SUBSTITUTE; 1B ESC; 1B ESCAPE; 1C FILE SEPARATOR; 1C FS; 1C INFORMATION SEPARATOR FOUR;
   1D GROUP SEPARATOR; 1D GS; 1D INFORMATION SEPARATOR THREE; 1E INFORMATION SEPARATOR TWO;
   1E RECORD SEPARATOR; 1E RS; 1F INFORMATION SEPARATOR ONE; 1F UNIT SEPARATOR; 1F US; 20 SP;
   20 SPACE; 21 EXCLAMATION MARK; 22 QUOTATION MARK; 23 NUMBER SIGN; 24 DOLLAR SIGN;
   25 PERCENT SIGN; 26 AMPERSAND; 27 APOSTROPHE; 28 LEFT PARENTHESIS; 29 RIGHT PARENTHESIS;
   2A ASTERISK; 2B PLUS SIGN; 2C COMMA; 2D HYPHEN-MINUS; 2E FULL STOP; 2F SOLIDUS; 30 DIGIT ZERO;
   31 DIGIT ONE; 32 DIGIT TWO; 33 DIGIT THREE; 34 DIGIT FOUR; 35 DIGIT FIVE; 36 DIGIT SIX;
   37 DIGIT SEVEN; 38 DIGIT EIGHT; 39 DIGIT NINE; 3A COLON; 3B SEMICOLON; 3C LESS-THAN SIGN;
   3D EQUALS SIGN; 3E GREATER-THAN SIGN; 3F QUESTION MARK; 40 COMMERCIAL AT;
   41 LATIN CAPITAL LETTER A; 42 LATIN CAPITAL LETTER B; 43 LATIN CAPITAL LETTER C;
   44 LATIN CAPITAL LETTER D; 45 LATIN CAPITAL LETTER E; 46 LATIN CAPITAL LETTER F;
   47 LATIN CAPITAL LETTER G; 48 LATIN CAPITAL LETTER H; 49 LATIN CAPITAL LETTER I;
   4A LATIN CAPITAL LETTER J; 4B LATIN CAPITAL LETTER K; 4C LATIN CAPITAL LETTER L;
   4D LATIN CAPITAL LETTER M; 4E LATIN CAPITAL LETTER N; 4F LATIN CAPITAL LETTER O;
   50 LATIN CAPITAL LETTER P; 51 LATIN CAPITAL LETTER Q; 52 LATIN CAPITAL LETTER R;
   53 LATIN CAPITAL LETTER S; 54 LATIN CAPITAL LETTER T; 55 LATIN CAPITAL LETTER U;
   56 LATIN CAPITAL LETTER V; 57 LATIN CAPITAL LETTER W; 58 LATIN CAPITAL LETTER X;
   59 LATIN CAPITAL LETTER Y; 5A LATIN CAPITAL LETTER Z; 5B LEFT SQUARE BRACKET; 5C REVERSE SOLIDUS;
   5D RIGHT SQUARE BRACKET; 5E CIRCUMFLEX ACCENT; 5F LOW LINE; 60 GRAVE ACCENT;
   61 LATIN SMALL LETTER A; 62 LATIN SMALL LETTER B; 63 LATIN SMALL LETTER C;
   64 LATIN SMALL LETTER D; 65 LATIN SMALL LETTER E; 66 LATIN SMALL LETTER F;
   67 LATIN SMALL LETTER G; 68 LATIN SMALL LETTER H; 69 LATIN SMALL LETTER I;
   6A LATIN SMALL LETTER J; 6B LATIN SMALL LETTER K; 6C LATIN SMALL LETTER L;
   6D LATIN SMALL LETTER M; 6E LATIN SMALL LETTER N; 6F LATIN SMALL LETTER O;
   70 LATIN SMALL LETTER P; 71 LATIN SMALL LETTER Q; 72 LATIN SMALL LETTER R;
   73 LATIN SMALL LETTER S; 74 LATIN SMALL LETTER T; 75 LATIN SMALL LETTER U;
   76 LATIN SMALL LETTER V; 77 LATIN SMALL LETTER W; 78 LATIN SMALL LETTER X;
   79 LATIN SMALL LETTER Y; 7A LATIN SMALL LETTER Z; 7B LEFT CURLY BRACKET; 7C VERTICAL LINE;
   7D RIGHT CURLY BRACKET; 7E TILDE; 7F DEL; 7F DELETE; 85 NEL; 85 NEXT LINE; A0 NBSP;
   A0 NO-BREAK SPACE; A1 INVERTED EXCLAMATION MARK; A2 CENT SIGN; A3 POUND SIGN; A4 CURRENCY SIGN;
   A5 YEN SIGN; A6 BROKEN BAR; A7 SECTION SIGN; A8 DIAERESIS; A9 COPYRIGHT SIGN;
   AA FEMININE ORDINAL INDICATOR; AB LEFT-POINTING DOUBLE ANGLE QUOTATION MARK; AC NOT SIGN; AD SHY;
   AD SOFT HYPHEN; AE REGISTERED SIGN; AF MACRON; B0 DEGREE SIGN; B1 PLUS-MINUS SIGN;
   B2 SUPERSCRIPT TWO; B3 SUPERSCRIPT THREE; B4 ACUTE ACCENT; B5 MICRO SIGN; B6 PILCROW SIGN;
   B7 MIDDLE DOT; B8 CEDILLA; B9 SUPERSCRIPT ONE; BA MASCULINE ORDINAL INDICATOR;
   BB RIGHT-POINTING DOUBLE ANGLE QUOTATION MARK; BC VULGAR FRACTION ONE QUARTER;
   BD VULGAR FRACTION ONE HALF; BE VULGAR FRACTION THREE QUARTERS; BF INVERTED QUESTION MARK;
   C0 LATIN CAPITAL LETTER A WITH GRAVE; C1 LATIN CAPITAL LETTER A WITH ACUTE;
   C2 LATIN CAPITAL LETTER A WITH CIRCUMFLEX; C3 LATIN CAPITAL LETTER A WITH TILDE;
   C4 LATIN CAPITAL LETTER A WITH DIAERESIS; C5 LATIN CAPITAL LETTER A WITH RING ABOVE;
   C6 LATIN CAPITAL LETTER AE; C7 LATIN CAPITAL LETTER C WITH CEDILLA;
   C8 LATIN CAPITAL LETTER E WITH GRAVE; C9 LATIN CAPITAL LETTER E WITH ACUTE;
   CA LATIN CAPITAL LETTER E WITH CIRCUMFLEX; CB LATIN CAPITAL LETTER E WITH DIAERESIS;
   CC LATIN CAPITAL LETTER I WITH GRAVE; CD LATIN CAPITAL LETTER I WITH ACUTE;
   CE LATIN CAPITAL LETTER I WITH CIRCUMFLEX; CF LATIN CAPITAL LETTER I WITH DIAERESIS;
   D0 LATIN CAPITAL LETTER ETH; D1 LATIN CAPITAL LETTER N WITH TILDE;
   D2 LATIN CAPITAL LETTER O WITH GRAVE; D3 LATIN CAPITAL LETTER O WITH ACUTE;
   D4 LATIN CAPITAL LETTER O WITH CIRCUMFLEX; D5 LATIN CAPITAL LETTER O WITH TILDE;
   D6 LATIN CAPITAL LETTER O WITH DIAERESIS; D7 MULTIPLICATION SIGN;
   D8 LATIN CAPITAL LETTER O WITH STROKE; D9 LATIN CAPITAL LETTER U WITH GRAVE;
   DA LATIN CAPITAL LETTER U WITH ACUTE; DB LATIN CAPITAL LETTER U WITH CIRCUMFLEX;
   DC LATIN CAPITAL LETTER U WITH DIAERESIS; DD LATIN CAPITAL LETTER Y WITH ACUTE;
   DE LATIN CAPITAL LETTER THORN; DF LATIN SMALL LETTER SHARP S; E0 LATIN SMALL LETTER A WITH GRAVE;
   E1 LATIN SMALL LETTER A WITH ACUTE; E2 LATIN SMALL LETTER A WITH CIRCUMFLEX;
   E3 LATIN SMALL LETTER A WITH TILDE; E4 LATIN SMALL LETTER A WITH DIAERESIS;
   E5 LATIN SMALL LETTER A WITH RING ABOVE; E6 LATIN SMALL LETTER AE;
   E7 LATIN SMALL LETTER C WITH CEDILLA; E8 LATIN SMALL LETTER E WITH GRAVE;
   E9 LATIN SMALL LETTER E WITH ACUTE; EA LATIN SMALL LETTER E WITH CIRCUMFLEX;
   EB LATIN SMALL LETTER E WITH DIAERESIS; EC LATIN SMALL LETTER I WITH GRAVE;
   ED LATIN SMALL LETTER I WITH ACUTE; EE LATIN SMALL LETTER I WITH CIRCUMFLEX;
   EF LATIN SMALL LETTER I WITH DIAERESIS; F0 LATIN SMALL LETTER ETH;
   F1 LATIN SMALL LETTER N WITH TILDE; F2 LATIN SMALL LETTER O WITH GRAVE;
   F3 LATIN SMALL LETTER O WITH ACUTE; F4 LATIN SMALL LETTER O WITH CIRCUMFLEX;
   F5 LATIN SMALL LETTER O WITH TILDE; F6 LATIN SMALL LETTER O WITH DIAERESIS; F7 DIVISION SIGN;
   F8 LATIN SMALL LETTER O WITH STROKE; F9 LATIN SMALL LETTER U WITH GRAVE;
   FA LATIN SMALL LETTER U WITH ACUTE; FB LATIN SMALL LETTER U WITH CIRCUMFLEX;
   FC LATIN SMALL LETTER U WITH DIAERESIS; FD LATIN SMALL LETTER Y WITH ACUTE;
   FE LATIN SMALL LETTER THORN; FF LATIN SMALL LETTER Y WITH DIAERESIS;
   100 LATIN CAPITAL LETTER A WITH MACRON; 101 LATIN SMALL LETTER A WITH MACRON;
   102 LATIN CAPITAL LETTER A WITH BREVE; 103 LATIN SMALL LETTER A WITH BREVE;
   104 LATIN CAPITAL LETTER A WITH OGONEK; 105 LATIN SMALL LETTER A WITH OGONEK;
   106 LATIN CAPITAL LETTER C WITH ACUTE; 107 LATIN SMALL LETTER C WITH ACUTE;
   108 LATIN CAPITAL LETTER C WITH CIRCUMFLEX; 109 LATIN SMALL LETTER C WITH CIRCUMFLEX;
   10A LATIN CAPITAL LETTER C WITH DOT ABOVE; 10B LATIN SMALL LETTER C WITH DOT ABOVE;
   10C LATIN CAPITAL LETTER C WITH CARON; 10D LATIN SMALL LETTER C WITH CARON;
   10E LATIN CAPITAL LETTER D WITH CARON; 10F LATIN SMALL LETTER D WITH CARON;
   110 LATIN CAPITAL LETTER D WITH STROKE; 111 LATIN SMALL LETTER D WITH STROKE;
   112 LATIN CAPITAL LETTER E WITH MACRON; 113 LATIN SMALL LETTER E WITH MACRON;
   114 LATIN CAPITAL LETTER E WITH BREVE; 115 LATIN SMALL LETTER E WITH BREVE;
   116 LATIN CAPITAL LETTER E WITH DOT ABOVE; 117 LATIN SMALL LETTER E WITH DOT ABOVE;
   118 LATIN CAPITAL LETTER E WITH OGONEK; 119 LATIN SMALL LETTER E WITH OGONEK;
   11A LATIN CAPITAL LETTER E WITH CARON; 11B LATIN SMALL LETTER E WITH CARON;
   11C LATIN CAPITAL LETTER G WITH CIRCUMFLEX; 11D LATIN SMALL LETTER G WITH CIRCUMFLEX;
   11E LATIN CAPITAL LETTER G WITH BREVE; 11F LATIN SMALL LETTER G WITH BREVE;
   120 LATIN CAPITAL LETTER G WITH DOT ABOVE; 121 LATIN SMALL LETTER G WITH DOT ABOVE;
   122 LATIN CAPITAL LETTER G WITH CEDILLA; 123 LATIN SMALL LETTER G WITH CEDILLA;
   124 LATIN CAPITAL LETTER H WITH CIRCUMFLEX; 125 LATIN SMALL LETTER H WITH CIRCUMFLEX;
   126 LATIN CAPITAL LETTER H WITH STROKE; 127 LATIN SMALL LETTER H WITH STROKE;
   128 LATIN CAPITAL LETTER I WITH TILDE; 129 LATIN SMALL LETTER I WITH TILDE;
   12A LATIN CAPITAL LETTER I WITH MACRON; 12B LATIN SMALL LETTER I WITH MACRON;
   12C LATIN CAPITAL LETTER I WITH BREVE; 12D LATIN SMALL LETTER I WITH BREVE;
   12E LATIN CAPITAL LETTER I WITH OGONEK; 12F LATIN SMALL LETTER I WITH OGONEK;
   130 LATIN CAPITAL LETTER I WITH DOT ABOVE; 131 LATIN SMALL LETTER DOTLESS I;
   132 LATIN CAPITAL LIGATURE IJ; 133 LATIN SMALL LIGATURE IJ;
   134 LATIN CAPITAL LETTER J WITH CIRCUMFLEX; 135 LATIN SMALL LETTER J WITH CIRCUMFLEX;
   136 LATIN CAPITAL LETTER K WITH CEDILLA; 137 LATIN SMALL LETTER K WITH CEDILLA;
   138 LATIN SMALL LETTER KRA; 139 LATIN CAPITAL LETTER L WITH ACUTE;
   13A LATIN SMALL LETTER L WITH ACUTE; 13B LATIN CAPITAL LETTER L WITH CEDILLA;
   13C LATIN SMALL LETTER L WITH CEDILLA; 13D LATIN CAPITAL LETTER L WITH CARON;
   13E LATIN SMALL LETTER L WITH CARON; 13F LATIN CAPITAL LETTER L WITH MIDDLE DOT;
   140 LATIN SMALL LETTER L WITH MIDDLE DOT; 141 LATIN CAPITAL LETTER L WITH STROKE;
   142 LATIN SMALL LETTER L WITH STROKE; 143 LATIN CAPITAL LETTER N WITH ACUTE;
   144 LATIN SMALL LETTER N WITH ACUTE; 145 LATIN CAPITAL LETTER N WITH CEDILLA;
   146 LATIN SMALL LETTER N WITH CEDILLA; 147 LATIN CAPITAL LETTER N WITH CARON;
   148 LATIN SMALL LETTER N WITH CARON; 149 LATIN SMALL LETTER N PRECEDED BY APOSTROPHE;
   14A LATIN CAPITAL LETTER ENG; 14B LATIN SMALL LETTER ENG; 14C LATIN CAPITAL LETTER O WITH MACRON;
   14D LATIN SMALL LETTER O WITH MACRON; 14E LATIN CAPITAL LETTER O WITH BREVE;
   14F LATIN SMALL LETTER O WITH BREVE; 150 LATIN CAPITAL LETTER O WITH DOUBLE ACUTE;
   151 LATIN SMALL LETTER O WITH DOUBLE ACUTE; 152 LATIN CAPITAL LIGATURE OE;
   153 LATIN SMALL LIGATURE OE; 154 LATIN CAPITAL LETTER R WITH ACUTE;
   155 LATIN SMALL LETTER R WITH ACUTE; 156 LATIN CAPITAL LETTER R WITH CEDILLA;
   157 LATIN SMALL LETTER R WITH CEDILLA; 158 LATIN CAPITAL LETTER R WITH CARON;
   159 LATIN SMALL LETTER R WITH CARON; 15A LATIN CAPITAL LETTER S WITH ACUTE;
   15B LATIN SMALL LETTER S WITH ACUTE; 15C LATIN CAPITAL LETTER S WITH CIRCUMFLEX;
   15D LATIN SMALL LETTER S WITH CIRCUMFLEX; 15E LATIN CAPITAL LETTER S WITH CEDILLA;
   15F LATIN SMALL LETTER S WITH CEDILLA; 160 LATIN CAPITAL LETTER S WITH CARON;
   161 LATIN SMALL LETTER S WITH CARON; 162 LATIN CAPITAL LETTER T WITH CEDILLA;
   163 LATIN SMALL LETTER T WITH CEDILLA; 164 LATIN CAPITAL LETTER T WITH CARON;
   165 LATIN SMALL LETTER T WITH CARON; 166 LATIN CAPITAL LETTER T WITH STROKE;
   167 LATIN SMALL LETTER T WITH STROKE; 168 LATIN CAPITAL LETTER U WITH TILDE;
   169 LATIN SMALL LETTER U WITH TILDE; 16A LATIN CAPITAL LETTER U WITH MACRON;
   16B LATIN SMALL LETTER U WITH MACRON; 16C LATIN CAPITAL LETTER U WITH BREVE;
   16D LATIN SMALL LETTER U WITH BREVE; 16E LATIN CAPITAL LETTER U WITH RING ABOVE;
   16F LATIN SMALL LETTER U WITH RING ABOVE; 170 LATIN CAPITAL LETTER U WITH DOUBLE ACUTE;
   171 LATIN SMALL LETTER U WITH DOUBLE ACUTE; 172 LATIN CAPITAL LETTER U WITH OGONEK;
   173 LATIN SMALL LETTER U WITH OGONEK; 174 LATIN CAPITAL LETTER W WITH CIRCUMFLEX;
   175 LATIN SMALL LETTER W WITH CIRCUMFLEX; 176 LATIN CAPITAL LETTER Y WITH CIRCUMFLEX;
   177 LATIN SMALL LETTER Y WITH CIRCUMFLEX; 178 LATIN CAPITAL LETTER Y WITH DIAERESIS;
   179 LATIN CAPITAL LETTER Z WITH ACUTE; 17A LATIN SMALL LETTER Z WITH ACUTE;
   17B LATIN CAPITAL LETTER Z WITH DOT ABOVE; 17C LATIN SMALL LETTER Z WITH DOT ABOVE;
   17D LATIN CAPITAL LETTER Z WITH CARON; 17E LATIN SMALL LETTER Z WITH CARON;
   17F LATIN SMALL LETTER LONG S; 391 GREEK CAPITAL LETTER ALPHA; 392 GREEK CAPITAL LETTER BETA;
   393 GREEK CAPITAL LETTER GAMMA; 394 GREEK CAPITAL LETTER DELTA; 395 GREEK CAPITAL LETTER EPSILON;
   396 GREEK CAPITAL LETTER ZETA; 397 GREEK CAPITAL LETTER ETA; 398 GREEK CAPITAL LETTER THETA;
   399 GREEK CAPITAL LETTER IOTA; 39A GREEK CAPITAL LETTER KAPPA; 39B GREEK CAPITAL LETTER LAMDA;
   39C GREEK CAPITAL LETTER MU; 39D GREEK CAPITAL LETTER NU; 39E GREEK CAPITAL LETTER XI;
   39F GREEK CAPITAL LETTER OMICRON; 3A0 GREEK CAPITAL LETTER PI; 3A1 GREEK CAPITAL LETTER RHO;
   3A3 GREEK CAPITAL LETTER SIGMA; 3A4 GREEK CAPITAL LETTER TAU; 3A5 GREEK CAPITAL LETTER UPSILON;
   3A6 GREEK CAPITAL LETTER PHI; 3A7 GREEK CAPITAL LETTER CHI; 3A8 GREEK CAPITAL LETTER PSI;
   3A9 GREEK CAPITAL LETTER OMEGA; 3AA GREEK CAPITAL LETTER IOTA WITH DIALYTIKA;
   3AB GREEK CAPITAL LETTER UPSILON WITH DIALYTIKA; 3AC GREEK SMALL LETTER ALPHA WITH TONOS;
   3AD GREEK SMALL LETTER EPSILON WITH TONOS; 3AE GREEK SMALL LETTER ETA WITH TONOS;
   3AF GREEK SMALL LETTER IOTA WITH TONOS; 3B0 GREEK SMALL LETTER UPSILON WITH DIALYTIKA AND TONOS;
   3B1 GREEK SMALL LETTER ALPHA; 3B2 GREEK SMALL LETTER BETA; 3B3 GREEK SMALL LETTER GAMMA;
   3B4 GREEK SMALL LETTER DELTA; 3B5 GREEK SMALL LETTER EPSILON; 3B6 GREEK SMALL LETTER ZETA;
   3B7 GREEK SMALL LETTER ETA; 3B8 GREEK SMALL LETTER THETA; 3B9 GREEK SMALL LETTER IOTA;
   3BA GREEK SMALL LETTER KAPPA; 3BB GREEK SMALL LETTER LAMDA; 3BC GREEK SMALL LETTER MU;
   3BD GREEK SMALL LETTER NU; 3BE GREEK SMALL LETTER XI; 3BF GREEK SMALL LETTER OMICRON;
   3C0 GREEK SMALL LETTER PI; 3C1 GREEK SMALL LETTER RHO; 3C2 GREEK SMALL LETTER FINAL SIGMA;
   3C3 GREEK SMALL LETTER SIGMA; 3C4 GREEK SMALL LETTER TAU; 3C5 GREEK SMALL LETTER UPSILON;
   3C6 GREEK SMALL LETTER PHI; 3C7 GREEK SMALL LETTER CHI; 3C8 GREEK SMALL LETTER PSI;
   3C9 GREEK SMALL LETTER OMEGA; 400 CYRILLIC CAPITAL LETTER IE WITH GRAVE;
   401 CYRILLIC CAPITAL LETTER IO; 402 CYRILLIC CAPITAL LETTER DJE; 403 CYRILLIC CAPITAL LETTER GJE;
   404 CYRILLIC CAPITAL LETTER UKRAINIAN IE; 405 CYRILLIC CAPITAL LETTER DZE;
   406 CYRILLIC CAPITAL LETTER BYELORUSSIAN-UKRAINIAN I; 407 CYRILLIC CAPITAL LETTER YI;
   408 CYRILLIC CAPITAL LETTER JE; 409 CYRILLIC CAPITAL LETTER LJE; 40A CYRILLIC CAPITAL LETTER NJE;
   40B CYRILLIC CAPITAL LETTER TSHE; 40C CYRILLIC CAPITAL LETTER KJE;
   40D CYRILLIC CAPITAL LETTER I WITH GRAVE; 40E CYRILLIC CAPITAL LETTER SHORT U;
   40F CYRILLIC CAPITAL LETTER DZHE; 410 CYRILLIC CAPITAL LETTER A; 411 CYRILLIC CAPITAL LETTER BE;
   412 CYRILLIC CAPITAL LETTER VE; 413 CYRILLIC CAPITAL LETTER GHE; 414 CYRILLIC CAPITAL LETTER DE;
   415 CYRILLIC CAPITAL LETTER IE; 416 CYRILLIC CAPITAL LETTER ZHE; 417 CYRILLIC CAPITAL LETTER ZE;
   418 CYRILLIC CAPITAL LETTER I; 419 CYRILLIC CAPITAL LETTER SHORT I;
   41A CYRILLIC CAPITAL LETTER KA; 41B CYRILLIC CAPITAL LETTER EL; 41C CYRILLIC CAPITAL LETTER EM;
   41D CYRILLIC CAPITAL LETTER EN; 41E CYRILLIC CAPITAL LETTER O; 41F CYRILLIC CAPITAL LETTER PE;
   420 CYRILLIC CAPITAL LETTER ER; 421 CYRILLIC CAPITAL LETTER ES; 422 CYRILLIC CAPITAL LETTER TE;
   423 CYRILLIC CAPITAL LETTER U; 424 CYRILLIC CAPITAL LETTER EF; 425 CYRILLIC CAPITAL LETTER HA;
   426 CYRILLIC CAPITAL LETTER TSE; 427 CYRILLIC CAPITAL LETTER CHE;
   428 CYRILLIC CAPITAL LETTER SHA; 429 CYRILLIC CAPITAL LETTER SHCHA;
   42A CYRILLIC CAPITAL LETTER HARD SIGN; 42B CYRILLIC CAPITAL LETTER YERU;
   42C CYRILLIC CAPITAL LETTER SOFT SIGN; 42D CYRILLIC CAPITAL LETTER E;
   42E CYRILLIC CAPITAL LETTER YU; 42F CYRILLIC CAPITAL LETTER YA; 430 CYRILLIC SMALL LETTER A;
   431 CYRILLIC SMALL LETTER BE; 432 CYRILLIC SMALL LETTER VE; 433 CYRILLIC SMALL LETTER GHE;
   434 CYRILLIC SMALL LETTER DE; 435 CYRILLIC SMALL LETTER IE; 436 CYRILLIC SMALL LETTER ZHE;
   437 CYRILLIC SMALL LETTER ZE; 438 CYRILLIC SMALL LETTER I; 439 CYRILLIC SMALL LETTER SHORT I;
   43A CYRILLIC SMALL LETTER KA; 43B CYRILLIC SMALL LETTER EL; 43C CYRILLIC SMALL LETTER EM;
   43D CYRILLIC SMALL LETTER EN; 43E CYRILLIC SMALL LETTER O; 43F CYRILLIC SMALL LETTER PE;
   440 CYRILLIC SMALL LETTER ER; 441 CYRILLIC SMALL LETTER ES; 442 CYRILLIC SMALL LETTER TE;
   443 CYRILLIC SMALL LETTER U; 444 CYRILLIC SMALL LETTER EF; 445 CYRILLIC SMALL LETTER HA;
   446 CYRILLIC SMALL LETTER TSE; 447 CYRILLIC SMALL LETTER CHE; 448 CYRILLIC SMALL LETTER SHA;
   449 CYRILLIC SMALL LETTER SHCHA; 44A CYRILLIC SMALL LETTER HARD SIGN;
   44B CYRILLIC SMALL LETTER YERU; 44C CYRILLIC SMALL LETTER SOFT SIGN; 44D CYRILLIC SMALL LETTER E;
   44E CYRILLIC SMALL LETTER YU; 44F CYRILLIC SMALL LETTER YA;
   450 CYRILLIC SMALL LETTER IE WITH GRAVE; 451 CYRILLIC SMALL LETTER IO;
   452 CYRILLIC SMALL LETTER DJE; 453 CYRILLIC SMALL LETTER GJE;
   454 CYRILLIC SMALL LETTER UKRAINIAN IE; 455 CYRILLIC SMALL LETTER DZE;
   456 CYRILLIC SMALL LETTER BYELORUSSIAN-UKRAINIAN I; 457 CYRILLIC SMALL LETTER YI;
   458 CYRILLIC SMALL LETTER JE; 459 CYRILLIC SMALL LETTER LJE; 45A CYRILLIC SMALL LETTER NJE;
   45B CYRILLIC SMALL LETTER TSHE; 45C CYRILLIC SMALL LETTER KJE;
   45D CYRILLIC SMALL LETTER I WITH GRAVE; 45E CYRILLIC SMALL LETTER SHORT U;
   45F CYRILLIC SMALL LETTER DZHE; 2010 HYPHEN; 2011 NON-BREAKING HYPHEN; 2012 FIGURE DASH;
   2013 EN DASH; 2014 EM DASH; 2015 HORIZONTAL BAR; 2016 DOUBLE VERTICAL LINE; 2017 DOUBLE LOW LINE;
   2018 LEFT SINGLE QUOTATION MARK; 2019 RIGHT SINGLE QUOTATION MARK;
   201A SINGLE LOW-9 QUOTATION MARK; 201B SINGLE HIGH-REVERSED-9 QUOTATION MARK;
   201C LEFT DOUBLE QUOTATION MARK; 201D RIGHT DOUBLE QUOTATION MARK;
   201E DOUBLE LOW-9 QUOTATION MARK; 201F DOUBLE HIGH-REVERSED-9 QUOTATION MARK; 2020 DAGGER;
   2021 DOUBLE DAGGER; 2022 BULLET; 2023 TRIANGULAR BULLET; 2024 ONE DOT LEADER;
   2025 TWO DOT LEADER; 2026 HORIZONTAL ELLIPSIS; 2027 HYPHENATION POINT; 2028 LINE SEPARATOR;
   2029 PARAGRAPH SEPARATOR; 202A LEFT-TO-RIGHT EMBEDDING; 202B RIGHT-TO-LEFT EMBEDDING;
   202C POP DIRECTIONAL FORMATTING; 202D LEFT-TO-RIGHT OVERRIDE; 202E RIGHT-TO-LEFT OVERRIDE;
   202F NARROW NO-BREAK SPACE; 2030 PER MILLE SIGN; 2031 PER TEN THOUSAND SIGN; 2032 PRIME;
   2033 DOUBLE PRIME; 2034 TRIPLE PRIME; 2035 REVERSED PRIME; 2036 REVERSED DOUBLE PRIME;
   2037 REVERSED TRIPLE PRIME; 2038 CARET; 2039 SINGLE LEFT-POINTING ANGLE QUOTATION MARK;
   203A SINGLE RIGHT-POINTING ANGLE QUOTATION MARK; 203B REFERENCE MARK;
   203C DOUBLE EXCLAMATION MARK; 203D INTERROBANG; 203E OVERLINE; 203F UNDERTIE; 2040 CHARACTER TIE;
   2041 CARET INSERTION POINT; 2042 ASTERISM; 2043 HYPHEN BULLET; 2044 FRACTION SLASH;
   2070 SUPERSCRIPT ZERO; 2071 SUPERSCRIPT LATIN SMALL LETTER I; 2074 SUPERSCRIPT FOUR;
   2075 SUPERSCRIPT FIVE; 2076 SUPERSCRIPT SIX; 2077 SUPERSCRIPT SEVEN; 2078 SUPERSCRIPT EIGHT;
   2079 SUPERSCRIPT NINE; 207A SUPERSCRIPT PLUS SIGN; 207B SUPERSCRIPT MINUS;
   207C SUPERSCRIPT EQUALS SIGN; 207D SUPERSCRIPT LEFT PARENTHESIS;
   207E SUPERSCRIPT RIGHT PARENTHESIS; 207F SUPERSCRIPT LATIN SMALL LETTER N; 2080 SUBSCRIPT ZERO;
   2081 SUBSCRIPT ONE; 2082 SUBSCRIPT TWO; 2083 SUBSCRIPT THREE; 2084 SUBSCRIPT FOUR;
   2085 SUBSCRIPT FIVE; 2086 SUBSCRIPT SIX; 2087 SUBSCRIPT SEVEN; 2088 SUBSCRIPT EIGHT;
   2089 SUBSCRIPT NINE; 208A SUBSCRIPT PLUS SIGN; 208B SUBSCRIPT MINUS; 208C SUBSCRIPT EQUALS SIGN;
   208D SUBSCRIPT LEFT PARENTHESIS; 208E SUBSCRIPT RIGHT PARENTHESIS;
   2090 LATIN SUBSCRIPT SMALL LETTER A; 2091 LATIN SUBSCRIPT SMALL LETTER E;
   2092 LATIN SUBSCRIPT SMALL LETTER O; 2093 LATIN SUBSCRIPT SMALL LETTER X;
   2094 LATIN SUBSCRIPT SMALL LETTER SCHWA; 20A0 EURO-CURRENCY SIGN; 20A1 COLON SIGN;
   20A2 CRUZEIRO SIGN; 20A3 FRENCH FRANC SIGN; 20A4 LIRA SIGN; 20A5 MILL SIGN; 20A6 NAIRA SIGN;
   20A7 PESETA SIGN; 20A8 RUPEE SIGN; 20A9 WON SIGN; 20AA NEW SHEQEL SIGN; 20AB DONG SIGN;
   20AC EURO SIGN; 20AD KIP SIGN; 20AE TUGRIK SIGN; 20AF DRACHMA SIGN; 20B0 GERMAN PENNY SIGN;
   20B1 PESO SIGN; 20B2 GUARANI SIGN; 20B3 AUSTRAL SIGN; 20B4 HRYVNIA SIGN; 20B5 CEDI SIGN;
   20B6 LIVRE TOURNOIS SIGN; 20B7 SPESMILO SIGN; 20B8 TENGE SIGN; 20B9 INDIAN RUPEE SIGN;
   20BA TURKISH LIRA SIGN; 20BB NORDIC MARK SIGN; 20BC MANAT SIGN; 20BD RUBLE SIGN; 20BE LARI SIGN;
   20BF BITCOIN SIGN; 20C0 SOM SIGN; 2100 ACCOUNT OF; 2101 ADDRESSED TO THE SUBJECT;
   2102 DOUBLE-STRUCK CAPITAL C; 2103 DEGREE CELSIUS; 2104 CENTRE LINE SYMBOL; 2105 CARE OF;
   2106 CADA UNA; 2107 EULER CONSTANT; 2108 SCRUPLE; 2109 DEGREE FAHRENHEIT; 210A SCRIPT SMALL G;
   210B SCRIPT CAPITAL H; 210C BLACK-LETTER CAPITAL H; 210D DOUBLE-STRUCK CAPITAL H;
   210E PLANCK CONSTANT; 210F PLANCK CONSTANT OVER TWO PI; 2110 SCRIPT CAPITAL I;
   2111 BLACK-LETTER CAPITAL I; 2112 SCRIPT CAPITAL L; 2113 SCRIPT SMALL L; 2114 L B BAR SYMBOL;
   2115 DOUBLE-STRUCK CAPITAL N; 2116 NUMERO SIGN; 2117 SOUND RECORDING COPYRIGHT;
   2118 SCRIPT CAPITAL P; 2119 DOUBLE-STRUCK CAPITAL P; 211A DOUBLE-STRUCK CAPITAL Q;
   211B SCRIPT CAPITAL R; 211C BLACK-LETTER CAPITAL R; 211D DOUBLE-STRUCK CAPITAL R;
   211E PRESCRIPTION TAKE; 211F RESPONSE; 2120 SERVICE MARK; 2121 TELEPHONE SIGN;
   2122 TRADE MARK SIGN; 2123 VERSICLE; 2124 DOUBLE-STRUCK CAPITAL Z; 2125 OUNCE SIGN;
   2126 OHM SIGN; 2127 INVERTED OHM SIGN; 2128 BLACK-LETTER CAPITAL Z;
   2129 TURNED GREEK SMALL LETTER IOTA; 212A KELVIN SIGN; 212B ANGSTROM SIGN; 212C SCRIPT CAPITAL B;
   212D BLACK-LETTER CAPITAL C; 212E ESTIMATED SYMBOL; 212F SCRIPT SMALL E; 2130 SCRIPT CAPITAL E;
   2131 SCRIPT CAPITAL F; 2132 TURNED CAPITAL F; 2133 SCRIPT CAPITAL M; 2134 SCRIPT SMALL O;
   2135 ALEF SYMBOL; 2136 BET SYMBOL; 2137 GIMEL SYMBOL; 2138 DALET SYMBOL; 2190 LEFTWARDS ARROW;
   2191 UPWARDS ARROW; 2192 RIGHTWARDS ARROW; 2193 DOWNWARDS ARROW; 2194 LEFT RIGHT ARROW;
   2195 UP DOWN ARROW; 2196 NORTH WEST ARROW; 2197 NORTH EAST ARROW; 2198 SOUTH EAST ARROW;
   2199 SOUTH WEST ARROW; 21D0 LEFTWARDS DOUBLE ARROW; 21D1 UPWARDS DOUBLE ARROW;
   21D2 RIGHTWARDS DOUBLE ARROW; 21D3 DOWNWARDS DOUBLE ARROW; 21D4 LEFT RIGHT DOUBLE ARROW;
   21D5 UP DOWN DOUBLE ARROW; 2200 FOR ALL; 2201 COMPLEMENT; 2202 PARTIAL DIFFERENTIAL;
   2203 THERE EXISTS; 2204 THERE DOES NOT EXIST; 2205 EMPTY SET; 2206 INCREMENT; 2207 NABLA;
   2208 ELEMENT OF; 2209 NOT AN ELEMENT OF; 220A SMALL ELEMENT OF; 220B CONTAINS AS MEMBER;
   220C DOES NOT CONTAIN AS MEMBER; 220D SMALL CONTAINS AS MEMBER; 220E END OF PROOF;
   220F N-ARY PRODUCT; 2210 N-ARY COPRODUCT; 2211 N-ARY SUMMATION; 2212 MINUS SIGN;
   2213 MINUS-OR-PLUS SIGN; 2214 DOT PLUS; 2215 DIVISION SLASH; 2216 SET MINUS;
   2217 ASTERISK OPERATOR; 2218 RING OPERATOR; 2219 BULLET OPERATOR; 221A SQUARE ROOT;
   221B CUBE ROOT; 221C FOURTH ROOT; 221D PROPORTIONAL TO; 221E INFINITY; 221F RIGHT ANGLE;
   2220 ANGLE; 2221 MEASURED ANGLE; 2222 SPHERICAL ANGLE; 2223 DIVIDES; 2224 DOES NOT DIVIDE;
   2225 PARALLEL TO; 2226 NOT PARALLEL TO; 2227 LOGICAL AND; 2228 LOGICAL OR; 2229 INTERSECTION;
   222A UNION; 222B INTEGRAL; 2245 APPROXIMATELY EQUAL TO;
   2246 APPROXIMATELY BUT NOT ACTUALLY EQUAL TO; 2247 NEITHER APPROXIMATELY NOR ACTUALLY EQUAL TO;
   2248 ALMOST EQUAL TO; 2249 NOT ALMOST EQUAL TO; 224A ALMOST EQUAL OR EQUAL TO; 224B TRIPLE TILDE;
   224C ALL EQUAL TO; 224D EQUIVALENT TO; 224E GEOMETRICALLY EQUIVALENT TO; 224F DIFFERENCE BETWEEN;
   2250 APPROACHES THE LIMIT; 2251 GEOMETRICALLY EQUAL TO;
   2252 APPROXIMATELY EQUAL TO OR THE IMAGE OF; 2253 IMAGE OF OR APPROXIMATELY EQUAL TO;
   2254 COLON EQUALS; 2255 EQUALS COLON; 2256 RING IN EQUAL TO; 2257 RING EQUAL TO;
   2258 CORRESPONDS TO; 2259 ESTIMATES; 225A EQUIANGULAR TO; 225B STAR EQUALS; 225C DELTA EQUAL TO;
   225D EQUAL TO BY DEFINITION; 225E MEASURED BY; 225F QUESTIONED EQUAL TO; 2260 NOT EQUAL TO;
   2261 IDENTICAL TO; 2262 NOT IDENTICAL TO; 2263 STRICTLY EQUIVALENT TO;
   2264 LESS-THAN OR EQUAL TO; 2265 GREATER-THAN OR EQUAL TO; 2282 SUBSET OF; 2283 SUPERSET OF;
   2284 NOT A SUBSET OF; 2285 NOT A SUPERSET OF; 2286 SUBSET OF OR EQUAL TO;
   2287 SUPERSET OF OR EQUAL TO; 2295 CIRCLED PLUS; 2296 CIRCLED MINUS; 2297 CIRCLED TIMES;
   2298 CIRCLED DIVISION SLASH; 2299 CIRCLED DOT OPERATOR; 22C0 N-ARY LOGICAL AND;
   22C1 N-ARY LOGICAL OR; 22C2 N-ARY INTERSECTION; 22C3 N-ARY UNION; 22C4 DIAMOND OPERATOR;
   22C5 DOT OPERATOR; 22C6 STAR OPERATOR; 2308 LEFT CEILING; 2309 RIGHT CEILING; 230A LEFT FLOOR;
   230B RIGHT FLOOR; 2318 PLACE OF INTEREST SIGN; 2319 TURNED NOT SIGN; 231A WATCH; 231B HOURGLASS;
   2500 BOX DRAWINGS LIGHT HORIZONTAL; 2501 BOX DRAWINGS HEAVY HORIZONTAL;
   2502 BOX DRAWINGS LIGHT VERTICAL; 2588 FULL BLOCK; 2589 LEFT SEVEN EIGHTHS BLOCK;
   258A LEFT THREE QUARTERS BLOCK; 258B LEFT FIVE EIGHTHS BLOCK; 258C LEFT HALF BLOCK;
   258D LEFT THREE EIGHTHS BLOCK; 258E LEFT ONE QUARTER BLOCK; 258F LEFT ONE EIGHTH BLOCK;
   2590 RIGHT HALF BLOCK; 2591 LIGHT SHADE; 2592 MEDIUM SHADE; 2593 DARK SHADE; 25A0 BLACK SQUARE;
   25A1 WHITE SQUARE; 25A2 WHITE SQUARE WITH ROUNDED CORNERS;
   25A3 WHITE SQUARE CONTAINING BLACK SMALL SQUARE; 25A4 SQUARE WITH HORIZONTAL FILL;
   25A5 SQUARE WITH VERTICAL FILL; 25A6 SQUARE WITH ORTHOGONAL CROSSHATCH FILL;
   25A7 SQUARE WITH UPPER LEFT TO LOWER RIGHT FILL; 25A8 SQUARE WITH UPPER RIGHT TO LOWER LEFT FILL;
   25A9 SQUARE WITH DIAGONAL CROSSHATCH FILL; 25AA BLACK SMALL SQUARE; 25AB WHITE SMALL SQUARE;
   25AC BLACK RECTANGLE; 25AD WHITE RECTANGLE; 25AE BLACK VERTICAL RECTANGLE;
   25AF WHITE VERTICAL RECTANGLE; 25B0 BLACK PARALLELOGRAM; 25B1 WHITE PARALLELOGRAM;
   25B2 BLACK UP-POINTING TRIANGLE; 25B3 WHITE UP-POINTING TRIANGLE;
   25B4 BLACK UP-POINTING SMALL TRIANGLE; 25B5 WHITE UP-POINTING SMALL TRIANGLE;
   25B6 BLACK RIGHT-POINTING TRIANGLE; 25B7 WHITE RIGHT-POINTING TRIANGLE;
   25B8 BLACK RIGHT-POINTING SMALL TRIANGLE; 25B9 WHITE RIGHT-POINTING SMALL TRIANGLE;
   25BA BLACK RIGHT-POINTING POINTER; 25BB WHITE RIGHT-POINTING POINTER;
   25BC BLACK DOWN-POINTING TRIANGLE; 25BD WHITE DOWN-POINTING TRIANGLE;
   25BE BLACK DOWN-POINTING SMALL TRIANGLE; 25BF WHITE DOWN-POINTING SMALL TRIANGLE;
   25C0 BLACK LEFT-POINTING TRIANGLE; 25C1 WHITE LEFT-POINTING TRIANGLE;
   25C2 BLACK LEFT-POINTING SMALL TRIANGLE; 25C3 WHITE LEFT-POINTING SMALL TRIANGLE;
   25C4 BLACK LEFT-POINTING POINTER; 25C5 WHITE LEFT-POINTING POINTER; 25C6 BLACK DIAMOND;
   25C7 WHITE DIAMOND; 25C8 WHITE DIAMOND CONTAINING BLACK SMALL DIAMOND; 25C9 FISHEYE;
   25CA LOZENGE; 25CB WHITE CIRCLE; 25CC DOTTED CIRCLE; 25CD CIRCLE WITH VERTICAL FILL;
   25CE BULLSEYE; 25CF BLACK CIRCLE; 2600 BLACK SUN WITH RAYS; 2601 CLOUD; 2602 UMBRELLA;
   2603 SNOWMAN; 2604 COMET; 2605 BLACK STAR; 2606 WHITE STAR; 2607 LIGHTNING; 2608 THUNDERSTORM;
   2609 SUN; 260A ASCENDING NODE; 260B DESCENDING NODE; 260C CONJUNCTION; 260D OPPOSITION;
   260E BLACK TELEPHONE; 260F WHITE TELEPHONE; 2610 BALLOT BOX; 2611 BALLOT BOX WITH CHECK;
   2612 BALLOT BOX WITH X; 2613 SALTIRE; 2614 UMBRELLA WITH RAIN DROPS; 2615 HOT BEVERAGE;
   2616 WHITE SHOGI PIECE; 2617 BLACK SHOGI PIECE; 2618 SHAMROCK;
   2619 REVERSED ROTATED FLORAL HEART BULLET; 261A BLACK LEFT POINTING INDEX;
   261B BLACK RIGHT POINTING INDEX; 261C WHITE LEFT POINTING INDEX; 261D WHITE UP POINTING INDEX;
   261E WHITE RIGHT POINTING INDEX; 261F WHITE DOWN POINTING INDEX; 2620 SKULL AND CROSSBONES;
   2621 CAUTION SIGN; 2622 RADIOACTIVE SIGN; 2623 BIOHAZARD SIGN; 2624 CADUCEUS; 2625 ANKH;
   2626 ORTHODOX CROSS; 2627 CHI RHO; 2628 CROSS OF LORRAINE; 2629 CROSS OF JERUSALEM;
   262A STAR AND CRESCENT; 262B FARSI SYMBOL; 262C ADI SHAKTI; 262D HAMMER AND SICKLE;
   262E PEACE SYMBOL; 262F YIN YANG; 2630 TRIGRAM FOR HEAVEN; 2631 TRIGRAM FOR LAKE;
   2632 TRIGRAM FOR FIRE; 2633 TRIGRAM FOR THUNDER; 2634 TRIGRAM FOR WIND; 2635 TRIGRAM FOR WATER;
   2636 TRIGRAM FOR MOUNTAIN; 2637 TRIGRAM FOR EARTH; 2638 WHEEL OF DHARMA;
   2639 WHITE FROWNING FACE; 263A WHITE SMILING FACE; 263B BLACK SMILING FACE;
   263C WHITE SUN WITH RAYS; 263D FIRST QUARTER MOON; 263E LAST QUARTER MOON; 263F MERCURY;
   2640 FEMALE SIGN; 2641 EARTH; 2642 MALE SIGN; 2643 JUPITER; 2644 SATURN; 2645 URANUS;
   2646 NEPTUNE; 2647 PLUTO; 2648 ARIES; 2649 TAURUS; 264A GEMINI; 264B CANCER; 264C LEO;
   264D VIRGO; 264E LIBRA; 264F SCORPIUS; 2650 SAGITTARIUS; 2651 CAPRICORN; 2652 AQUARIUS;
   2653 PISCES; 2654 WHITE CHESS KING; 2655 WHITE CHESS QUEEN; 2656 WHITE CHESS ROOK;
   2657 WHITE CHESS BISHOP; 2658 WHITE CHESS KNIGHT; 2659 WHITE CHESS PAWN; 265A BLACK CHESS KING;
   265B BLACK CHESS QUEEN; 265C BLACK CHESS ROOK; 265D BLACK CHESS BISHOP; 265E BLACK CHESS KNIGHT;
   265F BLACK CHESS PAWN; 2660 BLACK SPADE SUIT; 2661 WHITE HEART SUIT; 2662 WHITE DIAMOND SUIT;
   2663 BLACK CLUB SUIT; 2664 WHITE SPADE SUIT; 2665 BLACK HEART SUIT; 2666 BLACK DIAMOND SUIT;
   2667 WHITE CLUB SUIT; 266A EIGHTH NOTE; 266B BEAMED EIGHTH NOTES; 266C BEAMED SIXTEENTH NOTES;
   266D MUSIC FLAT SIGN; 266E MUSIC NATURAL SIGN; 266F MUSIC SHARP SIGN; 2713 CHECK MARK;
   2714 HEAVY CHECK MARK; 2715 MULTIPLICATION X; 2716 HEAVY MULTIPLICATION X; 2717 BALLOT X;
   2718 HEAVY BALLOT X; 2728 SPARKLES; 2764 HEAVY BLACK HEART; 27E8 MATHEMATICAL LEFT ANGLE BRACKET;
   27E9 MATHEMATICAL RIGHT ANGLE BRACKET; FEFF BOM; FEFF BYTE ORDER MARK;
   FEFF ZERO WIDTH NO-BREAK SPACE; FEFF ZWNBSP; FFFD REPLACEMENT CHARACTER; 1F300 CYCLONE;
   1F301 FOGGY; 1F302 CLOSED UMBRELLA; 1F303 NIGHT WITH STARS; 1F304 SUNRISE OVER MOUNTAINS;
   1F305 SUNRISE; 1F306 CITYSCAPE AT DUSK; 1F307 SUNSET OVER BUILDINGS; 1F308 RAINBOW;
   1F309 BRIDGE AT NIGHT; 1F30A WATER WAVE; 1F30B VOLCANO; 1F30C MILKY WAY;
   1F30D EARTH GLOBE EUROPE-AFRICA; 1F30E EARTH GLOBE AMERICAS; 1F30F EARTH GLOBE ASIA-AUSTRALIA;
   1F310 GLOBE WITH MERIDIANS; 1F311 NEW MOON SYMBOL; 1F312 WAXING CRESCENT MOON SYMBOL;
   1F313 FIRST QUARTER MOON SYMBOL; 1F314 WAXING GIBBOUS MOON SYMBOL; 1F315 FULL MOON SYMBOL;
   1F316 WANING GIBBOUS MOON SYMBOL; 1F317 LAST QUARTER MOON SYMBOL;
   1F318 WANING CRESCENT MOON SYMBOL; 1F319 CRESCENT MOON; 1F31A NEW MOON WITH FACE;
   1F31B FIRST QUARTER MOON WITH FACE; 1F31C LAST QUARTER MOON WITH FACE; 1F31D FULL MOON WITH FACE;
   1F31E SUN WITH FACE; 1F31F GLOWING STAR; 1F320 SHOOTING STAR; 1F400 RAT; 1F401 MOUSE; 1F402 OX;
   1F403 WATER BUFFALO; 1F404 COW; 1F405 TIGER; 1F406 LEOPARD; 1F407 RABBIT; 1F408 CAT;
   1F409 DRAGON; 1F40A CROCODILE; 1F40B WHALE; 1F40C SNAIL; 1F40D SNAKE; 1F40E HORSE; 1F40F RAM;
   1F410 GOAT; 1F411 SHEEP; 1F412 MONKEY; 1F413 ROOSTER; 1F414 CHICKEN; 1F415 DOG; 1F416 PIG;
   1F417 BOAR; 1F418 ELEPHANT; 1F419 OCTOPUS; 1F41A SPIRAL SHELL; 1F41B BUG; 1F41C ANT;
   1F41D HONEYBEE; 1F41E LADY BEETLE; 1F41F FISH; 1F420 TROPICAL FISH; 1F421 BLOWFISH; 1F422 TURTLE;
   1F423 HATCHING CHICK; 1F424 BABY CHICK; 1F425 FRONT-FACING BABY CHICK; 1F426 BIRD; 1F427 PENGUIN;
   1F428 KOALA; 1F429 POODLE; 1F42A DROMEDARY CAMEL; 1F42B BACTRIAN CAMEL; 1F42C DOLPHIN;
   1F42D MOUSE FACE; 1F42E COW FACE; 1F42F TIGER FACE; 1F430 RABBIT FACE; 1F431 CAT FACE;
   1F432 DRAGON FACE; 1F433 SPOUTING WHALE; 1F434 HORSE FACE; 1F435 MONKEY FACE; 1F436 DOG FACE;
   1F437 PIG FACE; 1F438 FROG FACE; 1F439 HAMSTER FACE; 1F43A WOLF FACE; 1F43B BEAR FACE;
   1F43C PANDA FACE; 1F43D PIG NOSE; 1F43E PAW PRINTS; 1F440 EYES; 1F441 EYE; 1F442 EAR; 1F443 NOSE;
   1F444 MOUTH; 1F445 TONGUE; 1F446 WHITE UP POINTING BACKHAND INDEX;
   1F447 WHITE DOWN POINTING BACKHAND INDEX; 1F448 WHITE LEFT POINTING BACKHAND INDEX;
   1F449 WHITE RIGHT POINTING BACKHAND INDEX; 1F44A FISTED HAND SIGN; 1F44B WAVING HAND SIGN;
   1F44C OK HAND SIGN; 1F44D THUMBS UP SIGN; 1F44E THUMBS DOWN SIGN; 1F44F CLAPPING HANDS SIGN;
   1F450 OPEN HANDS SIGN; 1F494 BROKEN HEART; 1F495 TWO HEARTS; 1F496 SPARKLING HEART;
   1F497 GROWING HEART; 1F498 HEART WITH ARROW; 1F499 BLUE HEART; 1F49A GREEN HEART;
   1F49B YELLOW HEART; 1F49C PURPLE HEART; 1F49D HEART WITH RIBBON; 1F49E REVOLVING HEARTS;
   1F49F HEART DECORATION; 1F4A9 PILE OF POO; 1F4AA FLEXED BICEPS; 1F4AB DIZZY SYMBOL;
   1F4AC SPEECH BALLOON; 1F4AD THOUGHT BALLOON; 1F4AE WHITE FLOWER; 1F4AF HUNDRED POINTS SYMBOL;
   1F600 GRINNING FACE; 1F601 GRINNING FACE WITH SMILING EYES; 1F602 FACE WITH TEARS OF JOY;
   1F603 SMILING FACE WITH OPEN MOUTH; 1F604 SMILING FACE WITH OPEN MOUTH AND SMILING EYES;
   1F605 SMILING FACE WITH OPEN MOUTH AND COLD SWEAT;
   1F606 SMILING FACE WITH OPEN MOUTH AND TIGHTLY-CLOSED EYES; 1F607 SMILING FACE WITH HALO;
   1F608 SMILING FACE WITH HORNS; 1F609 WINKING FACE; 1F60A SMILING FACE WITH SMILING EYES;
   1F60B FACE SAVOURING DELICIOUS FOOD; 1F60C RELIEVED FACE;
   1F60D SMILING FACE WITH HEART-SHAPED EYES; 1F60E SMILING FACE WITH SUNGLASSES;
   1F60F SMIRKING FACE; 1F610 NEUTRAL FACE; 1F611 EXPRESSIONLESS FACE; 1F612 UNAMUSED FACE;
   1F613 FACE WITH COLD SWEAT; 1F614 PENSIVE FACE; 1F615 CONFUSED FACE; 1F616 CONFOUNDED FACE;
   1F617 KISSING FACE; 1F618 FACE THROWING A KISS; 1F619 KISSING FACE WITH SMILING EYES;
   1F61A KISSING FACE WITH CLOSED EYES; 1F61B FACE WITH STUCK-OUT TONGUE;
   1F61C FACE WITH STUCK-OUT TONGUE AND WINKING EYE;
   1F61D FACE WITH STUCK-OUT TONGUE AND TIGHTLY-CLOSED EYES; 1F61E DISAPPOINTED FACE;
   1F61F WORRIED FACE; 1F620 ANGRY FACE; 1F621 POUTING FACE; 1F622 CRYING FACE;
   1F623 PERSEVERING FACE; 1F624 FACE WITH LOOK OF TRIUMPH; 1F625 DISAPPOINTED BUT RELIEVED FACE;
   1F626 FROWNING FACE WITH OPEN MOUTH; 1F627 ANGUISHED FACE; 1F628 FEARFUL FACE; 1F629 WEARY FACE;
   1F62A SLEEPY FACE; 1F62B TIRED FACE; 1F62C GRIMACING FACE; 1F62D LOUDLY CRYING FACE;
   1F62E FACE WITH OPEN MOUTH; 1F62F HUSHED FACE; 1F630 FACE WITH OPEN MOUTH AND COLD SWEAT;
   1F631 FACE SCREAMING IN FEAR; 1F632 ASTONISHED FACE; 1F633 FLUSHED FACE; 1F634 SLEEPING FACE;
   1F635 DIZZY FACE; 1F636 FACE WITHOUT MOUTH; 1F637 FACE WITH MEDICAL MASK;
   1F638 GRINNING CAT FACE WITH SMILING EYES; 1F639 CAT FACE WITH TEARS OF JOY;
   1F63A SMILING CAT FACE WITH OPEN MOUTH; 1F63B SMILING CAT FACE WITH HEART-SHAPED EYES;
   1F63C CAT FACE WITH WRY SMILE; 1F63D KISSING CAT FACE WITH CLOSED EYES; 1F63E POUTING CAT FACE;
   1F63F CRYING CAT FACE; 1F640 WEARY CAT FACE; 1F641 SLIGHTLY FROWNING FACE;
   1F642 SLIGHTLY SMILING FACE; 1F643 UPSIDE-DOWN FACE; 1F644 FACE WITH ROLLING EYES;
   1F645 FACE WITH NO GOOD GESTURE; 1F646 FACE WITH OK GESTURE; 1F647 PERSON BOWING DEEPLY;
   1F648 SEE-NO-EVIL MONKEY; 1F649 HEAR-NO-EVIL MONKEY; 1F64A SPEAK-NO-EVIL MONKEY;
   1F64B HAPPY PERSON RAISING ONE HAND; 1F64C PERSON RAISING BOTH HANDS IN CELEBRATION;
   1F64D PERSON FROWNING; 1F64E PERSON WITH POUTING FACE; 1F64F PERSON WITH FOLDED HANDS;
   1F680 ROCKET;"

/-- The value of a hexadecimal digit, letters being capital. -/
def digitValue (digit : Char) : Nat :=
  if digit.isDigit then digit.toNat - 48 else digit.toNat - 55

/-- The number that hexadecimal digits spell. -/
def numberOf (digits : List Char) : Nat :=
  digits.foldl (fun number digit => 16 * number + digitValue digit) 0

/-- The characters without the blanks and line ends at their start. -/
def withoutBlanks (characters : List Char) : List Char :=
  characters.dropWhile fun character => character == ' ' || character == '\n'

/-- Reads an entry: the name behind the number, and the number. -/
def readEntry (entry : List Char) : List Char × Nat :=
  let digits := (withoutBlanks entry).takeWhile (· != ' ')
  (withoutBlanks ((withoutBlanks entry).drop digits.length), numberOf digits)

/-- The entries between the semicolons. -/
def readEntries : List Char → List Char → List (List Char × Nat)
  | [], _ => []
  | character :: rest, read =>
    if character == ';' then readEntry read.reverse :: readEntries rest []
    else readEntries rest (character :: read)

/-- The names with the numbers of their characters. -/
def names : List (List Char × Nat) :=
  readEntries table.toList []

/-- What stands before the number in the name of an ideograph. -/
def ideographMark : List Char :=
  "CJK UNIFIED IDEOGRAPH-".toList

/-- The ranges of ideographs that are named by their numbers. -/
def ideographs : List (Nat × Nat) :=
  [(0x3400, 0x4DBF), (0x4E00, 0x9FFF), (0x20000, 0x2A6DF), (0x2A700, 0x2B738), (0x2B740, 0x2B81D),
    (0x2B820, 0x2CEA1), (0x2CEB0, 0x2EBE0), (0x30000, 0x3134A)]

/-- Whether a character is a hexadecimal digit, letters being capital. -/
def isHexadecimal (character : Char) : Bool :=
  character.isDigit || ('A' ≤ character && character ≤ 'F')

/-- The number of an ideograph by its name. -/
def ideograph? (name : List Char) : Option Nat :=
  if ideographMark.isPrefixOf name then
    let digits := name.drop ideographMark.length
    let number := numberOf digits
    let isWritten := (digits.length == 4 || digits.length == 5) && digits.all isHexadecimal
    if isWritten && ideographs.any (fun (first, last) => first ≤ number && number ≤ last) then
      some number
    else none
  else none

/-- The character with a name. -/
def find? (name : List Char) : Option Char :=
  let capital := name.map Char.toUpper
  ((ideograph? capital).orElse fun _ => names.lookup capital).map Char.ofNat

end DifferenceTypes.CharacterName
