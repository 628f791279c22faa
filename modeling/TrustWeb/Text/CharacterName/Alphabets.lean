/-!
# Names of letters

The code points below 2000, in hexadecimal: most living alphabets.
`Entry.read` tells how the entries are written.
-/

namespace TrustWeb.Text.CharacterName

/-- The names of code points 0000 to 1FFF. -/
def alphabets : String :=
"20=0SPACE;0EXCLAMATION MARK;0QUOTATION MARK;0NUMBER s;0DOLLAR s;0PERCENT s;0AMPERSAND;0APOSTROPHE
0o PARENTHESIS;0q PARENTHESIS;0ASTERISK;0PLUS s;0COMMA;0HYPHEN-MINUS;0FULL STOP;0SOLIDUS
0DIGIT ZERO;1ONE;1TWO;1w;1FOUR;1FIVE;1SIX;1SEVEN;1EIGHT;1NINE;0COLON;0SEMICOLON;0LESS-THAN s
0EQUALS s;0GREATER-THAN s;0QUESTION MARK;0COMMERCIAL AT;0LATIN e p A;3B;3C;3D;3E;3F;3G;3H;3I;3J;3K
3L;3M;3N;3O;3P;3Q;3R;3S;3T;3U;3V;3W;3X;3Y;3Z;0o SQUARE BRACKET;0REVERSE SOLIDUS;0q SQUARE BRACKET
0CIRCUMFLEX ACCENT;0LOW LINE;0GRAVE ACCENT;0LATIN t p A;3B;3C;3D;3E;3F;3G;3H;3I;3J;3K;3L;3M;3N;3O
3P;3Q;3R;3S;3T;3U;3V;3W;3X;3Y;3Z;0o CURLY BRACKET;0y LINE;0q CURLY BRACKET;0TILDE
A0=0NO-BREAK SPACE;0INVERTED EXCLAMATION MARK;0CENT s;0POUND s;0CURRENCY s;0YEN s;0BROKEN BAR
0SECTION s;0DIAERESIS;0COPYq s;0FEMININE ORDINAL INDICATOR;0o-POINTING i ANGLE QUOTATION MARK
0NOT s;0SOFT HYPHEN;0REGISTERED s;0MACRON;0DEGREE s;0PLUS-MINUS s;0SUPERSCRIPT TWO;1w;0ACUTE ACCENT
0MICRO s;0PILCROW s;0MIDDLE DOT;0CEDILLA;0SUPERSCRIPT ONE;0MASCULINE ORDINAL INDICATOR
0q-POINTING i ANGLE QUOTATION MARK;0VULGAR FRACTION ONE QUARTER;3HALF;2w QUARTERS
0INVERTED QUESTION MARK;0LATIN e p A z GRAVE;5ACUTE;5CIRCUMFLEX;5TILDE;5DIAERESIS;5RING a;3AE
3C z CEDILLA;3E z GRAVE;5ACUTE;5CIRCUMFLEX;5DIAERESIS;3I z GRAVE;5ACUTE;5CIRCUMFLEX;5DIAERESIS;3ETH
3N z TILDE;3O z GRAVE;5ACUTE;5CIRCUMFLEX;5TILDE;5DIAERESIS;0MULTIPLICATION s;0LATIN e p O z u
3U z GRAVE;5ACUTE;5CIRCUMFLEX;5DIAERESIS;3Y z ACUTE;3THORN;1t p SHARP S;3A z GRAVE;5ACUTE
5CIRCUMFLEX;5TILDE;5DIAERESIS;5RING a;3AE;3C z CEDILLA;3E z GRAVE;5ACUTE;5CIRCUMFLEX;5DIAERESIS
3I z GRAVE;5ACUTE;5CIRCUMFLEX;5DIAERESIS;3ETH;3N z TILDE;3O z GRAVE;5ACUTE;5CIRCUMFLEX;5TILDE
5DIAERESIS;0DIVISION s;0LATIN t p O z u;3U z GRAVE;5ACUTE;5CIRCUMFLEX;5DIAERESIS;3Y z ACUTE;3THORN
3Y z DIAERESIS;1e p A z MACRON;1t p A z MACRON;1e p A z BREVE;1t p A z BREVE;1e p A z OGONEK
1t p A z OGONEK;1e p C z ACUTE;1t p C z ACUTE;1e p C z CIRCUMFLEX;1t p C z CIRCUMFLEX
1e p C z DOT a;1t p C z DOT a;1e p C z CARON;1t p C z CARON;1e p D z CARON;1t p D z CARON
1e p D z u;1t p D z u;1e p E z MACRON;1t p E z MACRON;1e p E z BREVE;1t p E z BREVE;1e p E z DOT a
1t p E z DOT a;1e p E z OGONEK;1t p E z OGONEK;1e p E z CARON;1t p E z CARON;1e p G z CIRCUMFLEX
1t p G z CIRCUMFLEX;1e p G z BREVE;1t p G z BREVE;1e p G z DOT a;1t p G z DOT a;1e p G z CEDILLA
1t p G z CEDILLA;1e p H z CIRCUMFLEX;1t p H z CIRCUMFLEX;1e p H z u;1t p H z u;1e p I z TILDE
1t p I z TILDE;1e p I z MACRON;1t p I z MACRON;1e p I z BREVE;1t p I z BREVE;1e p I z OGONEK
1t p I z OGONEK;1e p I z DOT a;1t p DOTLESS I;1e LIGATURE IJ;1t LIGATURE IJ;1e p J z CIRCUMFLEX
1t p J z CIRCUMFLEX;1e p K z CEDILLA;1t p K z CEDILLA;3KRA;1e p L z ACUTE;1t p L z ACUTE
1e p L z CEDILLA;1t p L z CEDILLA;1e p L z CARON;1t p L z CARON;1e p L z MIDDLE DOT
1t p L z MIDDLE DOT;1e p L z u;1t p L z u;1e p N z ACUTE;1t p N z ACUTE;1e p N z CEDILLA
1t p N z CEDILLA;1e p N z CARON;1t p N z CARON;4PRECEDED BY APOSTROPHE;1e p ENG;1t p ENG
1e p O z MACRON;1t p O z MACRON;1e p O z BREVE;1t p O z BREVE;1e p O z i ACUTE;1t p O z i ACUTE
1e LIGATURE OE;1t LIGATURE OE;1e p R z ACUTE;1t p R z ACUTE;1e p R z CEDILLA;1t p R z CEDILLA
1e p R z CARON;1t p R z CARON;1e p S z ACUTE;1t p S z ACUTE;1e p S z CIRCUMFLEX;1t p S z CIRCUMFLEX
1e p S z CEDILLA;1t p S z CEDILLA;1e p S z CARON;1t p S z CARON;1e p T z CEDILLA;1t p T z CEDILLA
1e p T z CARON;1t p T z CARON;1e p T z u;1t p T z u;1e p U z TILDE;1t p U z TILDE;1e p U z MACRON
1t p U z MACRON;1e p U z BREVE;1t p U z BREVE;1e p U z RING a;1t p U z RING a;1e p U z i ACUTE
1t p U z i ACUTE;1e p U z OGONEK;1t p U z OGONEK;1e p W z CIRCUMFLEX;1t p W z CIRCUMFLEX
1e p Y z CIRCUMFLEX;1t p Y z CIRCUMFLEX;1e p Y z DIAERESIS;3Z z ACUTE;1t p Z z ACUTE;1e p Z z DOT a
1t p Z z DOT a;1e p Z z CARON;1t p Z z CARON;3LONG S;3B z u;1e p B z HOOK;5TOPBAR;1t p B z TOPBAR
1e p TONE SIX;1t p TONE SIX;1e p OPEN O;3C z HOOK;1t p C z HOOK;1e p AFRICAN D;3D z HOOK;5TOPBAR
1t p D z TOPBAR;3TURNED DELTA;1e p REVERSED E;3SCHWA;3OPEN E;3F z HOOK;1t p F z HOOK;1e p G z HOOK
3GAMMA;1t p HV;1e p IOTA;3I z u;3K z HOOK;1t p K z HOOK;3L z BAR;3LAMBDA z u;1e p TURNED M
3N z o HOOK;1t p N z LONG q LEG;1e p O z MIDDLE TILDE;5HORN;1t p O z HORN;1e p OI;1t p OI
1e p P z HOOK;1t p P z HOOK;1p YR;1e p TONE TWO;1t p TONE TWO;1e p ESH;1p REVERSED ESH LOOP
1t p T z PALATAL HOOK;1e p T z HOOK;1t p T z HOOK;1e p T z RETROFLEX HOOK;3U z HORN;1t p U z HORN
1e p UPSILON;3V z HOOK;3Y z HOOK;1t p Y z HOOK;1e p Z z u;1t p Z z u;1e p EZH;4REVERSED
1t p EZH REVERSED;4z TAIL;1p TWO z u;1e p TONE FIVE;1t p TONE FIVE;1p INVERTED GLOTTAL STOP z u
2WYNN;2DENTAL CLICK;2LATERAL CLICK;2ALVEOLAR CLICK;2RETROFLEX CLICK;1e p DZ z CARON
3D z t p Z z CARON;1t p DZ z CARON;1e p LJ;3L z t p J;1t p LJ;1e p NJ;3N z t p J;1t p NJ
1e p A z CARON;1t p A z CARON;1e p I z CARON;1t p I z CARON;1e p O z CARON;1t p O z CARON
1e p U z CARON;1t p U z CARON;1e p U z DIAERESIS AND MACRON;1t p U z DIAERESIS AND MACRON
1e p U z DIAERESIS AND ACUTE;1t p U z DIAERESIS AND ACUTE;1e p U z DIAERESIS AND CARON
1t p U z DIAERESIS AND CARON;1e p U z DIAERESIS AND GRAVE;1t p U z DIAERESIS AND GRAVE;3TURNED E
1e p A z DIAERESIS AND MACRON;1t p A z DIAERESIS AND MACRON;1e p A z DOT a AND MACRON
1t p A z DOT a AND MACRON;1e p AE z MACRON;1t p AE z MACRON;1e p G z u;1t p G z u;1e p G z CARON
1t p G z CARON;1e p K z CARON;1t p K z CARON;1e p O z OGONEK;1t p O z OGONEK
1e p O z OGONEK AND MACRON;1t p O z OGONEK AND MACRON;1e p EZH z CARON;1t p EZH z CARON;3J z CARON
1e p DZ;3D z t p Z;1t p DZ;1e p G z ACUTE;1t p G z ACUTE;1e p HWAIR;3WYNN;3N z GRAVE;1t p N z GRAVE
1e p A z RING a AND ACUTE;1t p A z RING a AND ACUTE;1e p AE z ACUTE;1t p AE z ACUTE
1e p O z u AND ACUTE;1t p O z u AND ACUTE;1e p A z i GRAVE;1t p A z i GRAVE;1e p A z INVERTED BREVE
1t p A z INVERTED BREVE;1e p E z i GRAVE;1t p E z i GRAVE;1e p E z INVERTED BREVE
1t p E z INVERTED BREVE;1e p I z i GRAVE;1t p I z i GRAVE;1e p I z INVERTED BREVE
1t p I z INVERTED BREVE;1e p O z i GRAVE;1t p O z i GRAVE;1e p O z INVERTED BREVE
1t p O z INVERTED BREVE;1e p R z i GRAVE;1t p R z i GRAVE;1e p R z INVERTED BREVE
1t p R z INVERTED BREVE;1e p U z i GRAVE;1t p U z i GRAVE;1e p U z INVERTED BREVE
1t p U z INVERTED BREVE;1e p S z COMMA c;1t p S z COMMA c;1e p T z COMMA c;1t p T z COMMA c
1e p YOGH;1t p YOGH;1e p H z CARON;1t p H z CARON;1e p N z LONG q LEG;1t p D z CURL;1e p OU;1t p OU
1e p Z z HOOK;1t p Z z HOOK;1e p A z DOT a;1t p A z DOT a;1e p E z CEDILLA;1t p E z CEDILLA
1e p O z DIAERESIS AND MACRON;1t p O z DIAERESIS AND MACRON;1e p O z TILDE AND MACRON
1t p O z TILDE AND MACRON;1e p O z DOT a;1t p O z DOT a;1e p O z DOT a AND MACRON
1t p O z DOT a AND MACRON;1e p Y z MACRON;1t p Y z MACRON;3L z CURL;3N z CURL;3T z CURL;3DOTLESS J
3DB DIGRAPH;3QP DIGRAPH;1e p A z u;3C z u;1t p C z u;1e p L z BAR;3T z DIAGONAL u
1t p S z SWASH TAIL;3Z z SWASH TAIL;1e p GLOTTAL STOP;1t p GLOTTAL STOP;1e p B z u;3U BAR;3TURNED V
3E z u;1t p E z u;1e p J z u;1t p J z u;1e p t Q z HOOK TAIL;1t p Q z HOOK TAIL;1e p R z u
1t p R z u;1e p Y z u;1t p Y z u;3TURNED A;3ALPHA;3TURNED ALPHA;3B z HOOK;3OPEN O;3C z CURL
3D z TAIL;5HOOK;3REVERSED E;3SCHWA;4z HOOK;3OPEN E;3REVERSED OPEN E;6z HOOK;3CLOSED REVERSED OPEN E
3DOTLESS J z u;3G z HOOK;3SCRIPT G;1p t e G;1t p GAMMA;3RAMS HORN;3TURNED H;3H z HOOK;3HENG z HOOK
3I z u;3IOTA;1p t e I;1t p L z MIDDLE TILDE;5BELT;5RETROFLEX HOOK;3LEZH;3TURNED M;5z LONG LEG
3M z HOOK;3N z o HOOK;5RETROFLEX HOOK;1p t e N;1t p BARRED O;1p t e OE;1t p CLOSED OMEGA;3PHI
3TURNED R;5z LONG LEG;6HOOK;3R z LONG LEG;5TAIL;5FISHHOOK;3REVERSED R z FISHHOOK;1p t e R
4INVERTED R;1t p S z HOOK;3ESH;3DOTLESS J z u AND HOOK;3SQUAT REVERSED ESH;3ESH z CURL;3TURNED T
3T z RETROFLEX HOOK;3U BAR;3UPSILON;3V z HOOK;3TURNED V;4W;4Y;1p t e Y;1t p Z z RETROFLEX HOOK
5CURL;3EZH;4z CURL;1p GLOTTAL STOP;2PHARYNGEAL VOICED FRICATIVE;2INVERTED GLOTTAL STOP;2STRETCHED C
2BILABIAL CLICK;2t e B;1t p CLOSED OPEN E;1p t e G z HOOK;4H;1t p J z CROSSED-TAIL;3TURNED K
1p t e L;1t p Q z HOOK;1p GLOTTAL STOP z u;2REVERSED GLOTTAL STOP z u;1t p DZ DIGRAPH;3DEZH DIGRAPH
3DZ DIGRAPH z CURL;3TS DIGRAPH;3TESH DIGRAPH;3TC DIGRAPH z CURL;3FENG DIGRAPH;3LS DIGRAPH
3LZ DIGRAPH;1p BILABIAL PERCUSSIVE;2BIDENTAL PERCUSSIVE;1t p TURNED H z FISHHOOK;7AND TAIL
0MODIFIER p t H;4z HOOK;3J;3R;3TURNED R;5z HOOK;3e INVERTED R;3W;3Y;2PRIME;2i PRIME;2TURNED COMMA
2APOSTROPHE;2REVERSED COMMA;2q HALF RING;2o HALF RING;2GLOTTAL STOP;2REVERSED GLOTTAL STOP;2o bHEAD
2q bHEAD;2UP bHEAD;2DOWN bHEAD;2CIRCUMFLEX ACCENT;0CARON;0MODIFIER p y LINE;2MACRON;2ACUTE ACCENT
2GRAVE ACCENT;2LOW y LINE;3MACRON;3GRAVE ACCENT;3ACUTE ACCENT;2TRIANGULAR COLON
2HALF TRIANGULAR COLON;2CENTRED q HALF RING;3o HALF RING;2UP TACK;2DOWN TACK;2PLUS s;2MINUS s
0BREVE;0DOT a;0RING a;0OGONEK;0t TILDE;0i ACUTE ACCENT;0MODIFIER p RHOTIC HOOK;2CROSS ACCENT
2t GAMMA;3L;3S;3X;3REVERSED GLOTTAL STOP;2EXTRA-HIGH TONE BAR;2HIGH TONE BAR;2MID TONE BAR
2LOW TONE BAR;2EXTRA-LOW TONE BAR;2YIN DEPARTING TONE MARK;2YANG DEPARTING TONE MARK;2VOICING
2UNASPIRATED;2i APOSTROPHE;2LOW DOWN bHEAD;3UP bHEAD;3o bHEAD;3q bHEAD;3RING;2MIDDLE GRAVE ACCENT
3i GRAVE ACCENT;4ACUTE ACCENT;2LOW TILDE;2RAISED COLON;2BEGIN HIGH TONE;2END HIGH TONE
2BEGIN LOW TONE;2END LOW TONE;2SHELF;2OPEN SHELF;2LOW o b;0COMBINING GRAVE ACCENT;1ACUTE ACCENT
1CIRCUMFLEX ACCENT;1TILDE;1MACRON;1OVERLINE;1BREVE;1DOT a;1DIAERESIS;1HOOK a;1RING a
1i ACUTE ACCENT;1CARON;1y LINE a;1i y LINE a;2GRAVE ACCENT;1CANDRABINDU;1INVERTED BREVE
1TURNED COMMA a;1COMMA a;1REVERSED COMMA a;1COMMA a q;1GRAVE ACCENT c;1ACUTE ACCENT c;1o TACK c
1q TACK c;1o ANGLE a;1HORN;1o HALF RING c;1UP TACK c;1DOWN TACK c;1PLUS s c;1MINUS s c
1PALATALIZED HOOK c;1RETROFLEX HOOK c;1DOT c;1DIAERESIS c;1RING c;1COMMA c;1CEDILLA;1OGONEK
1y LINE c;1BRIDGE c;1INVERTED i ARCH c;1CARON c;1CIRCUMFLEX ACCENT c;1BREVE c;1INVERTED BREVE c
1TILDE c;1MACRON c;1LOW LINE;1i LOW LINE;1TILDE OVERLAY;1SHORT u OVERLAY;1LONG u OVERLAY
1SHORT SOLIDUS OVERLAY;1LONG SOLIDUS OVERLAY;1q HALF RING c;1INVERTED BRIDGE c;1SQUARE c;1SEAGULL c
1X a;1y TILDE;1i OVERLINE;1GRAVE TONE MARK;1ACUTE TONE MARK;1GREEK PERISPOMENI;2KORONIS
2DIALYTIKA TONOS;2YPOGEGRAMMENI;1BRIDGE a;1EQUALS s c;1i y LINE c;1o ANGLE c;1NOT TILDE a
1HOMOTHETIC a;1ALMOST EQUAL TO a;1o q b c;1UPWARDS b c;1GRAPHEME JOINER;1q bHEAD a;1o HALF RING a
1FERMATA;1X c;1o bHEAD c;1q bHEAD c;3AND UP bHEAD c;2HALF RING a;1DOT a q;1ASTERISK c;1i RING c
1ZIGZAG a;1i BREVE c;2BREVE;2MACRON;3c;2TILDE;2INVERTED BREVE;2qWARDS b c;1LATIN t p A;4E;4I;4O;4U
4C;4D;4H;4M;4R;4T;4V;4X;0GREEK e p HETA;1t p HETA;1e p ARCHAIC SAMPI;1t p ARCHAIC SAMPI;1NUMERAL s
1LOWER NUMERAL s;1e p PAMPHYLIAN DIGAMMA;1t p PAMPHYLIAN DIGAMMA;37A=1YPOGEGRAMMENI
1t REVERSED LUNATE SIGMA v;2DOTTED LUNATE SIGMA v;2REVERSED DOTTED LUNATE SIGMA v;1QUESTION MARK
1e p YOT;384=1TONOS;1DIALYTIKA TONOS;1e p ALPHA z TONOS;1ANO TELEIA;1e p EPSILON z TONOS
3ETA z TONOS;3IOTA z TONOS;38C=3OMICRON z TONOS;38E=3UPSILON z TONOS;3OMEGA z TONOS
1t p IOTA z DIALYTIKA AND TONOS;1e p ALPHA;3BETA;3GAMMA;3DELTA;3EPSILON;3ZETA;3ETA;3THETA;3IOTA
3KAPPA;3LAMDA;3MU;3NU;3XI;3OMICRON;3PI;3RHO;3A3=3SIGMA;3TAU;3UPSILON;3PHI;3CHI;3PSI;3OMEGA
3IOTA z DIALYTIKA;3UPSILON z DIALYTIKA;1t p ALPHA z TONOS;3EPSILON z TONOS;3ETA z TONOS
3IOTA z TONOS;3UPSILON z DIALYTIKA AND TONOS;3ALPHA;3BETA;3GAMMA;3DELTA;3EPSILON;3ZETA;3ETA;3THETA
3IOTA;3KAPPA;3LAMDA;3MU;3NU;3XI;3OMICRON;3PI;3RHO;3j SIGMA;3SIGMA;3TAU;3UPSILON;3PHI;3CHI;3PSI
3OMEGA;3IOTA z DIALYTIKA;3UPSILON z DIALYTIKA;3OMICRON z TONOS;3UPSILON z TONOS;3OMEGA z TONOS
1e KAI v;1BETA v;1THETA v;1UPSILON z HOOK v;3ACUTE AND HOOK v;3DIAERESIS AND HOOK v;1PHI v;1PI v
1KAI v;1p ARCHAIC KOPPA;1t p ARCHAIC KOPPA;1p STIGMA;1t p STIGMA;1p DIGAMMA;1t p DIGAMMA;1p KOPPA
1t p KOPPA;1p SAMPI;1t p SAMPI;0COPTIC e p SHEI;1t p SHEI;1e p FEI;1t p FEI;1e p KHEI;1t p KHEI
1e p HORI;1t p HORI;1e p GANGIA;1t p GANGIA;1e p SHIMA;1t p SHIMA;1e p DEI;1t p DEI;0GREEK KAPPA v
1RHO v;1LUNATE SIGMA v;1p YOT;1e THETA v;1LUNATE EPSILON v;1REVERSED LUNATE EPSILON v;1e p SHO
1t p SHO;1e LUNATE SIGMA v;2p SAN;1t p SAN;1RHO z u v;1e REVERSED LUNATE SIGMA v
2DOTTED LUNATE SIGMA v;2REVERSED DOTTED LUNATE SIGMA v;0CYRILLIC e p IE z GRAVE;3IO;3DJE;3GJE
3UKRAINIAN IE;3DZE;3BYELORUSSIAN-UKRAINIAN I;3YI;3JE;3LJE;3NJE;3TSHE;3KJE;3I z GRAVE;3SHORT U;3DZHE
3A;3BE;3VE;3GHE;3DE;3IE;3ZHE;3ZE;3I;3SHORT I;3KA;3EL;3EM;3EN;3O;3PE;3ER;3ES;3TE;3U;3EF;3HA;3TSE
3CHE;3SHA;3SHCHA;3HARD s;3YERU;3SOFT s;3E;3YU;3YA;1t p A;3BE;3VE;3GHE;3DE;3IE;3ZHE;3ZE;3I;3SHORT I
3KA;3EL;3EM;3EN;3O;3PE;3ER;3ES;3TE;3U;3EF;3HA;3TSE;3CHE;3SHA;3SHCHA;3HARD s;3YERU;3SOFT s;3E;3YU
3YA;3IE z GRAVE;3IO;3DJE;3GJE;3UKRAINIAN IE;3DZE;3BYELORUSSIAN-UKRAINIAN I;3YI;3JE;3LJE;3NJE;3TSHE
3KJE;3I z GRAVE;3SHORT U;3DZHE;1e p OMEGA;1t p OMEGA;1e p YAT;1t p YAT;1e p IOTIFIED E
1t p IOTIFIED E;1e p LITTLE YUS;1t p LITTLE YUS;1e p IOTIFIED LITTLE YUS;1t p IOTIFIED LITTLE YUS
1e p BIG YUS;1t p BIG YUS;1e p IOTIFIED BIG YUS;1t p IOTIFIED BIG YUS;1e p KSI;1t p KSI;1e p PSI
1t p PSI;1e p FITA;1t p FITA;1e p IZHITSA;1t p IZHITSA;1e p IZHITSA z i GRAVE ACCENT
1t p IZHITSA z i GRAVE ACCENT;1e p UK;1t p UK;1e p ROUND OMEGA;1t p ROUND OMEGA;1e p OMEGA z TITLO
1t p OMEGA z TITLO;1e p OT;1t p OT;1e p KOPPA;1t p KOPPA;1THOUSANDS s;0COMBINING CYRILLIC TITLO
2PALATALIZATION;2DASIA PNEUMATA;2PSILI PNEUMATA;2POKRYTIE;2HUNDRED THOUSANDS s;2MILLIONS s
0CYRILLIC e p SHORT I z TAIL;1t p SHORT I z TAIL;1e p SEMISOFT s;1t p SEMISOFT s;1e p ER z TICK
1t p ER z TICK;1e p GHE z UPTURN;1t p GHE z UPTURN;1e p GHE z u;1t p GHE z u;1e p GHE z MIDDLE HOOK
1t p GHE z MIDDLE HOOK;1e p ZHE z DESCENDER;1t p ZHE z DESCENDER;1e p ZE z DESCENDER
1t p ZE z DESCENDER;1e p KA z DESCENDER;1t p KA z DESCENDER;1e p KA z y u;1t p KA z y u;1e p KA z u
1t p KA z u;1e p BASHKIR KA;1t p BASHKIR KA;1e p EN z DESCENDER;1t p EN z DESCENDER
1e LIGATURE EN GHE;1t LIGATURE EN GHE;1e p PE z MIDDLE HOOK;1t p PE z MIDDLE HOOK;1e p ABKHASIAN HA
1t p ABKHASIAN HA;1e p ES z DESCENDER;1t p ES z DESCENDER;1e p TE z DESCENDER;1t p TE z DESCENDER
1e p STRAIGHT U;1t p STRAIGHT U;1e p STRAIGHT U z u;1t p STRAIGHT U z u;1e p HA z DESCENDER
1t p HA z DESCENDER;1e LIGATURE TE TSE;1t LIGATURE TE TSE;1e p CHE z DESCENDER;1t p CHE z DESCENDER
1e p CHE z y u;1t p CHE z y u;1e p SHHA;1t p SHHA;1e p ABKHASIAN CHE;1t p ABKHASIAN CHE
1e p ABKHASIAN CHE z DESCENDER;1t p ABKHASIAN CHE z DESCENDER;1p PALOCHKA;1e p ZHE z BREVE
1t p ZHE z BREVE;1e p KA z HOOK;1t p KA z HOOK;1e p EL z TAIL;1t p EL z TAIL;1e p EN z HOOK
1t p EN z HOOK;1e p EN z TAIL;1t p EN z TAIL;1e p KHAKASSIAN CHE;1t p KHAKASSIAN CHE;1e p EM z TAIL
1t p EM z TAIL;3PALOCHKA;1e p A z BREVE;1t p A z BREVE;1e p A z DIAERESIS;1t p A z DIAERESIS
1e LIGATURE A IE;1t LIGATURE A IE;1e p IE z BREVE;1t p IE z BREVE;1e p SCHWA;1t p SCHWA
1e p SCHWA z DIAERESIS;1t p SCHWA z DIAERESIS;1e p ZHE z DIAERESIS;1t p ZHE z DIAERESIS
1e p ZE z DIAERESIS;1t p ZE z DIAERESIS;1e p ABKHASIAN DZE;1t p ABKHASIAN DZE;1e p I z MACRON
1t p I z MACRON;1e p I z DIAERESIS;1t p I z DIAERESIS;1e p O z DIAERESIS;1t p O z DIAERESIS
1e p BARRED O;1t p BARRED O;1e p BARRED O z DIAERESIS;1t p BARRED O z DIAERESIS;1e p E z DIAERESIS
1t p E z DIAERESIS;1e p U z MACRON;1t p U z MACRON;1e p U z DIAERESIS;1t p U z DIAERESIS
1e p U z i ACUTE;1t p U z i ACUTE;1e p CHE z DIAERESIS;1t p CHE z DIAERESIS;1e p GHE z DESCENDER
1t p GHE z DESCENDER;1e p YERU z DIAERESIS;1t p YERU z DIAERESIS;1e p GHE z u AND HOOK
1t p GHE z u AND HOOK;1e p HA z HOOK;1t p HA z HOOK;1e p HA z u;1t p HA z u;1e p KOMI DE
1t p KOMI DE;1e p KOMI DJE;1t p KOMI DJE;1e p KOMI ZJE;1t p KOMI ZJE;1e p KOMI DZJE;1t p KOMI DZJE
1e p KOMI LJE;1t p KOMI LJE;1e p KOMI NJE;1t p KOMI NJE;1e p KOMI SJE;1t p KOMI SJE;1e p KOMI TJE
1t p KOMI TJE;1e p REVERSED ZE;1t p REVERSED ZE;1e p EL z HOOK;1t p EL z HOOK;1e p LHA;1t p LHA
1e p RHA;1t p RHA;1e p YAE;1t p YAE;1e p QA;1t p QA;1e p WE;1t p WE;1e p ALEUT KA;1t p ALEUT KA
1e p EL z MIDDLE HOOK;1t p EL z MIDDLE HOOK;1e p EN z MIDDLE HOOK;1t p EN z MIDDLE HOOK
1e p PE z DESCENDER;1t p PE z DESCENDER;1e p SHHA z DESCENDER;1t p SHHA z DESCENDER
1e p EN z o HOOK;1t p EN z o HOOK;1e p DZZHE;1t p DZZHE;1e p DCHE;1t p DCHE;1e p EL z DESCENDER
1t p EL z DESCENDER;531=0ARMENIAN e p AYB;3BEN;3GIM;3DA;3ECH;3ZA;3EH;3ET;3TO;3ZHE;3INI;3LIWN;3XEH
3CA;3KEN;3HO;3JA;3GHAD;3CHEH;3MEN;3YI;3NOW;3SHA;3VO;3CHA;3PEH;3JHEH;3RA;3SEH;3VEW;3TIWN;3REH;3CO
3YIWN;3PIWR;3KEH;3OH;3FEH;559=1MODIFIER p o HALF RING;1APOSTROPHE;1EMPHASIS MARK;1EXCLAMATION MARK
1COMMA;1QUESTION MARK;1ABBREVIATION MARK;1t p TURNED AYB;3AYB;3BEN;3GIM;3DA;3ECH;3ZA;3EH;3ET;3TO
3ZHE;3INI;3LIWN;3XEH;3CA;3KEN;3HO;3JA;3GHAD;3CHEH;3MEN;3YI;3NOW;3SHA;3VO;3CHA;3PEH;3JHEH;3RA;3SEH
3VEW;3TIWN;3REH;3CO;3YIWN;3PIWR;3KEH;3OH;3FEH;2LIGATURE ECH YIWN;2p YI z u;1FULL STOP;1HYPHEN
58D=0q-FACING ARMENIAN ETERNITY s;0o-FACING ARMENIAN ETERNITY s;0ARMENIAN DRAM s
591=0HEBREW ACCENT ETNAHTA;2SEGOL;2SHALSHELET;2ZAQEF QATAN;3GADOL;2TIPEHA;2REVIA;2ZARQA;2PASHTA
2YETIV;2TEVIR;2GERESH;3MUQDAM;2GERSHAYIM;2QARNEY PARA;2TELISHA GEDOLA;2PAZER;2ATNAH HAFUKH;2MUNAH
2MAHAPAKH;2MERKHA;3KEFULA;2DARGA;2QADMA;2TELISHA QETANA;2YERAH BEN YOMO;2OLE;2ILUY;2DEHI;2ZINOR
1MARK MASORA f;1POINT SHEVA;2HATAF SEGOL;3PATAH;3QAMATS;2HIRIQ;2TSERE;2SEGOL;2PATAH;2QAMATS;2HOLAM
3HASER FOR VAV;2QUBUTS;2DAGESH OR MAPIQ;2METEG;1PUNCTUATION MAQAF;1POINT RAFE;1PUNCTUATION PASEQ
1POINT SHIN DOT;2SIN DOT;1PUNCTUATION SOF PASUQ;1MARK UPPER DOT;2LOWER DOT;1PUNCTUATION NUN HAFUKHA
1POINT QAMATS QATAN;5D0=1p ALEF;2BET;2GIMEL;2DALET;2HE;2VAV;2ZAYIN;2HET;2TET;2YOD;2j KAF;2KAF
2LAMED;2j MEM;2MEM;2j NUN;2NUN;2SAMEKH;2AYIN;2j PE;2PE;2j TSADI;2TSADI;2QOF;2RESH;2SHIN;2TAV
5EF=1YOD x;1LIGATURE YIDDISH i VAV;3VAV YOD;3i YOD;1PUNCTUATION GERESH;2GERSHAYIM
600=0ARABIC NUMBER s;1s SANAH;1FOOTNOTE MARKER;1s SAFHA;2SAMVAT;1NUMBER MARK a
0ARABIC-INDIC CUBE ROOT;1FOURTH ROOT;0ARABIC RAY;0ARABIC-INDIC PER MILLE s;2TEN THOUSAND s
0AFGHANI s;0ARABIC COMMA;1DATE SEPARATOR;1POETIC VERSE s;1s MISRA;2SALLALLAHOU ALAYHE WASSALLAM
2ALAYHE ASSALLAM;2RAHMATULLAH ALAYHE;2RADI ALLAHOU ANHU;2TAKHALLUS;1t HIGH TAH
3LIGATURE ALEF z LAM z YEH;3ZAIN;2FATHA;2DAMMA;2KASRA;1SEMICOLON;1p MARK;1END OF TEXT MARK
1TRIPLE DOT PUNCTUATION MARK;1QUESTION MARK;1p KASHMIRI YEH;2HAMZA;2ALEF z MADDA a;4HAMZA a
2WAW z HAMZA a;2ALEF z HAMZA c;2YEH z HAMZA a;2ALEF;2BEH;2TEH MARBUTA;2TEH;2THEH;2JEEM;2HAH;2KHAH
2DAL;2THAL;2REH;2ZAIN;2SEEN;2SHEEN;2SAD;2DAD;2TAH;2ZAH;2AIN;2GHAIN;2KEHEH z TWO h a;4w h c
2FARSI YEH z INVERTED V;5TWO h a;5w h a;1TATWEEL;1p FEH;2QAF;2KAF;2LAM;2MEEM;2NOON;2HEH;2WAW
2ALEF MAKSURA;2YEH;1FATHATAN;1DAMMATAN;1KASRATAN;1FATHA;1DAMMA;1KASRA;1SHADDA;1SUKUN;1MADDAH a
1HAMZA a;2c;1SUBSCRIPT ALEF;1INVERTED DAMMA;1MARK NOON GHUNNA;1ZWARAKAY;1VOWEL s t V a
3INVERTED t V a;3DOT c;1REVERSED DAMMA;1FATHA z TWO h;1WAVY HAMZA c;0ARABIC-INDIC DIGIT ZERO;2ONE
2TWO;2w;2FOUR;2FIVE;2SIX;2SEVEN;2EIGHT;2NINE;0ARABIC PERCENT s;1DECIMAL SEPARATOR
1THOUSANDS SEPARATOR;1FIVE POINTED STAR;1p DOTLESS BEH;3QAF;2SUPERSCRIPT ALEF;2ALEF WASLA
3z WAVY HAMZA a;6c;2HIGH HAMZA;4ALEF;4WAW;2U z HAMZA a;2HIGH HAMZA YEH;2TTEH;2TTEHEH;2BEEH
2TEH z RING;4w h a DOWNWARDS;2PEH;2TEHEH;2BEHEH;2HAH z HAMZA a;4TWO h y a;2NYEH;2DYEH;2HAH z w h a
2TCHEH;2TCHEHEH;2DDAL;2DAL z RING;4DOT c;6AND t TAH;2DAHAL;2DDAHAL;2DUL;2DAL z w h a DOWNWARDS
4FOUR h a;2RREH;2REH z t V;4RING;4DOT c;4t V c;4DOT c AND DOT a;4TWO h a;2JEH;2REH z FOUR h a
2SEEN z DOT c AND DOT a;4w h c;7AND w h a;2SAD z TWO h c;4w h a;2TAH z w h a;2AIN z w h a
2DOTLESS FEH;2FEH z DOT MOVED c;5c;2VEH;2FEH z w h c;2PEHEH;2QAF z DOT a;4w h a;2KEHEH;2SWASH KAF
2KAF z RING;4DOT a;2NG;2KAF z w h c;2GAF;3z RING;2NGOEH;2GAF z TWO h c;2GUEH;2GAF z w h a
2LAM z t V;4DOT a;4w h a;6c;2NOON z DOT c;3GHUNNA;2RNOON;2NOON z RING;4w h a;2HEH DOACHASHMEE
2TCHEH z DOT a;2HEH z YEH a;3GOAL;4z HAMZA a;2TEH MARBUTA GOAL;2WAW z RING;2KIRGHIZ OE;2OE;2U;2YU
2KIRGHIZ YU;2WAW z TWO h a;2VE;2FARSI YEH;2YEH z TAIL;4t V;2WAW z DOT a;2E;2YEH z w h c;3BARREE
4z HAMZA a;1FULL STOP;1p AE;1t HIGH LIGATURE SAD z LAM z ALEF MAKSURA;4QAF z LAM z ALEF MAKSURA
3MEEM m k;3LAM ALEF;3JEEM;3w h;3SEEN;1END OF AYAH;1START OF RUB EL HIZB;1t HIGH ROUNDED ZERO
3UPq RECTANGULAR ZERO;3DOTLESS HEAD OF KHAH;3MEEM n k;2LOW SEEN;2HIGH MADDA;2WAW;2YEH;2HIGH YEH
3NOON;1PLACE OF SAJDAH;1EMPTY CENTRE LOW STOP;3HIGH STOP;1ROUNDED HIGH STOP z FILLED CENTRE
1t LOW MEEM;1p DAL z INVERTED V;2REH z INVERTED V;0EXTENDED ARABIC-INDIC DIGIT ZERO;3ONE;3TWO;3w
3FOUR;3FIVE;3SIX;3SEVEN;3EIGHT;3NINE;0ARABIC p SHEEN z DOT c;2DAD z DOT c;2GHAIN z DOT c
1s SINDHI AMPERSAND;3POSTPOSITION MEN;1p HEH z INVERTED V;0SYRIAC END OF PARAGRAPH
1SUPRALINEAR FULL STOP;1SUBLINEAR FULL STOP;1SUPRALINEAR COLON;1SUBLINEAR COLON;1l COLON
1COLON SKEWED o;3q;1SUPRALINEAR COLON SKEWED o;1SUBLINEAR COLON SKEWED q;1CONTRACTION
1HARKLEAN OBELUS;2METOBELUS;2ASTERISCUS;70F=1ABBREVIATION MARK;1p ALAPH;2SUPERSCRIPT ALAPH;2BETH
2GAMAL;3GARSHUNI;2DALATH;2DOTLESS DALATH RISH;2HE;2WAW;2ZAIN;2HETH;2TETH;3GARSHUNI;2YUDH;3HE;2KAPH
2LAMADH;2MIM;2NUN;2SEMKATH;2j SEMKATH;2E;2PE;2REVERSED PE;2SADHE;2QAPH;2RISH;2SHIN;2TAW
2PERSIAN BHETH;3GHAMAL;3DHALATH;1PTHAHA a;2c;2DOTTED;1ZQAPHA a;2c;2DOTTED;1RBASA a;2c
1DOTTED ZLAMA l;3ANGULAR;1HBASA a;2c;1HBASA-ESASA DOTTED;1ESASA a;2c;1RWAHA;1FEMININE DOT
1QUSHSHAYA;1RUKKAKHA;1TWO y h a;4c;1w h a;3c;1OBLIQUE LINE a;3c;1MUSIC;1BARREKH
74D=1p SOGDIAN ZHAIN;3KHAPH;3FE;0ARABIC p BEH z w h lLY c;4DOT c AND w h a;4w h POINTING UPWARDS c
9AND TWO h a;4TWO h c AND DOT a;4INVERTED t V c;4t V;2HAH z TWO h a;4w h POINTING UPWARDS c
2DAL z TWO h yLY c AND t TAH;4INVERTED t V c;2REH z u;2SEEN z FOUR h a;2AIN z TWO h a
4w h POINTING DOWNWARDS a;4TWO h yLY a;2FEH z TWO h c;4w h POINTING UPWARDS c;2KEHEH z DOT a;4w h a
6POINTING UPWARDS c;2MEEM z DOT a;5c;2NOON z TWO h c;4t TAH;5V;2LAM z BAR;2REH z TWO h yLY a
4HAMZA a;2SEEN z TWO h yLY a;2HAH z t ARABIC p TAH c;8AND TWO h;2SEEN z t ARABIC p TAH AND TWO h
2REH z t ARABIC p TAH AND TWO h;2HAH z t ARABIC p TAH a;2ALEF z EXTENDED ARABIC-INDIC DIGIT TWO a
7w a;2FARSI YEH z EXTENDED ARABIC-INDIC DIGIT TWO a;8w a;8FOUR c
2WAW z EXTENDED ARABIC-INDIC DIGIT TWO a;7w a;2YEH BARREE z EXTENDED ARABIC-INDIC DIGIT TWO a;8w a
2HAH z EXTENDED ARABIC-INDIC DIGIT FOUR c;2SEEN z EXTENDED ARABIC-INDIC DIGIT FOUR a;4INVERTED V
2KAF z TWO h a;0THAANA p HAA;2SHAVIYANI;2NOONU;2RAA;2BAA;2LHAVIYANI;2KAAFU;2ALIFU;2VAAVU;2MEEMU
2FAAFU;2DHAALU;2THAA;2LAAMU;2GAAFU;2GNAVIYANI;2SEENU;2DAVIYANI;2ZAVIYANI;2TAVIYANI;2YAA;2PAVIYANI
2JAVIYANI;2CHAVIYANI;2TTAA;2HHAA;2KHAA;2THAALU;2ZAA;2SHEENU;2SAADHU;2DAADHU;2TO;2ZO;2AINU;2GHAINU
2QAAFU;2WAAVU;1ABAFILI;1AABAAFILI;1IBIFILI;1EEBEEFILI;1UBUFILI;1OOBOOFILI;1EBEFILI;1EYBEYFILI
1OBOFILI;1OABOAFILI;1SUKUN;1p NAA;7C0=0NKO DIGIT ZERO;2ONE;2TWO;2w;2FOUR;2FIVE;2SIX;2SEVEN;2EIGHT
2NINE;1p A;2EE;2I;2E;2U;2OO;2O;2DAGBASINNA;2N;2BA;2PA;2TA;2JA;2CHA;2DA;2RA;2RRA;2SA;2GBA;2FA;2KA
2LA;2NA WOLOSO;2MA;2NYA;2NA;2HA;2WA;2YA;2NYA WOLOSO;2JONA JA;3CHA;3RA;1COMBINING SHORT HIGH TONE
3LOW TONE;3RISING TONE;2LONG DESCENDING TONE;3HIGH TONE;3LOW TONE;3RISING TONE;2NASALIZATION MARK
2i DOT a;1HIGH TONE APOSTROPHE;1LOW TONE APOSTROPHE;1v OO DENNEN;2GBAKURUNEN;1COMMA
1EXCLAMATION MARK;1LAJANYALAN;7FD=1DANTAYALAN;1DOROME s;1TAMAN s;0SAMARITAN p ALAF;2BIT;2GAMAN
2DALAT;2IY;2BAA;2ZEN;2IT;2TIT;2YUT;2KAAF;2LABAT;2MIM;2NUN;2SINGAAT;2IN;2FI;2TSAADIY;2QUF;2RISH
2SHAN;2TAAF;1MARK IN;2IN-ALAF;2OCCLUSION;2DAGESH;1MODIFIER p EPENTHETIC YUT;1MARK EPENTHETIC YUT
1VOWEL s LONG E;3E;3OVERLONG AA;3LONG AA;3AA;3OVERLONG A;3LONG A;3A;1MODIFIER p SHORT A
1VOWEL s SHORT A;3LONG U;3U;1MODIFIER p I;1VOWEL s LONG I;3I;3O;3SUKUN;1MARK NEQUDAA
830=1PUNCTUATION NEQUDAA;2AFSAAQ;2ANGED;2BAU;2ATMAAU;2SHIYYAALAA;1ABBREVIATION MARK
1PUNCTUATION MELODIC QITSA;2ZIQAA;2QITSA;2ZAEF;2TURU;2ARKAANU;2SOF MASHFAAT;2ANNAAU
840=0MANDAIC p HALQA;2AB;2AG;2AD;2AH;2USHENNA;2AZ;2IT;2ATT;2AKSA;2AK;2AL;2AM;2AN;2AS;2IN;2AP;2ASZ
2AQ;2AR;2ASH;2AT;2DUSHENNA;2KAD;2AIN;1AFFRICATION MARK;1VOCALIZATION MARK;1GEMINATION MARK
85E=1PUNCTUATION;860=0SYRIAC p MALAYALAM NGA;3JA;3NYA;3TTA;3NNA;3NNNA;3BHA;3RA;3LLA;3LLLA;3SSA
870=0ARABIC p ALEF z ATTACHED FATHA;5TOP q FATHA;4q MIDDLE u;4o MIDDLE u;4ATTACHED KASRA
5BOTTOM q KASRA;5ROUND DOT a;5q ROUND DOT;5o ROUND DOT;5ROUND DOT c;4DOT a
4ATTACHED TOP q FATHA AND DOT a;4q MIDDLE u AND DOT a;4ATTACHED BOTTOM q KASRA AND DOT a
5TOP q FATHA AND o RING;4q MIDDLE u AND o RING;4ATTACHED BOTTOM q KASRA AND o RING;5q HAMZA
5o HAMZA;1TATWEEL z OVERSTRUCK HAMZA;4WAW;3TWO h c;1p THIN YEH;1BASELINE ROUND DOT
1RAISED ROUND DOT;1p NOON z INVERTED t V;2HAH z INVERTED t V c;2TAH z DOT c;4w h c
2KEHEH z TWO h yLY c;1y TAIL;890=1POUND MARK a;1PIASTRE MARK a;898=1t HIGH WORD AL-JUZ
2LOW WORD ISHMAAM;4IMAALA;4TASHEEL;1MADDA WAAJIB;1SUPERSCRIPT ALEF MOKHASSAS;1iD MADDA
1HALF MADDA OVER MADDA;1p BEH z t V c;4HAMZA a;2JEEM z TWO h a;2TAH z TWO h a
2FEH z DOT c AND w h a;2QAF z DOT c;2LAM z i BAR;2MEEM z w h a;2YEH z TWO h c AND HAMZA a;8DOT a
2REH z LOOP;2WAW z DOT zIN;2ROHINGYA YEH;2LOW ALEF;2DAL z w h c;2SAD z w h c;2GAF z INVERTED u
2STRAIGHT WAW;2ZAIN z INVERTED V a;2AIN z w h c;2KAF z DOT c;2QAF z DOT c AND NO h a
2BEH z t MEEM a;2PEH z t MEEM a;2TEH z t TEH a;2REH z t NOON a;2YEH z TWO h c AND t NOON a
2AFRICAN FEH;3QAF;3NOON;2PEH z t V;2TEH z t V;2TTEH z t V;2TCHEH z t V;2KEHEH z t V;2GHAIN z w h a
2AFRICAN QAF z w h a;2JEEM z w h a;6c;2LAM z t ARABIC p TAH a;2GRAF;1t FARSI YEH;2HIGH FARSI YEH
3YEH BARREE z TWO h c;3WORD SAH;3ZAH;1LARGE ROUND DOT a;4c;1SUKUN c;1LARGE f c
2ROUND DOT INSIDE f c;1t LOW WAW;2HIGH WORD AR-RUB;3SAD;3AIN;3QAF;3NOON z KASRA;2LOW NOON z KASRA
2HIGH WORD ATH-THALATHA;4AS-SAJDA;4AN-NISF;4SAKTA;4QIF;4WAQFA;3FOOTNOTE MARKER;3s SAFHA
1DISPUTED END OF AYAH;1TURNED DAMMA c;1CURLY FATHA;2DAMMA;2KASRA;2FATHATAN;2DAMMATAN;2KASRATAN
1TONE ONE DOT a;2TWO h a;2LOOP a;2ONE DOT c;2TWO h c;2LOOP c;1OPEN FATHATAN;2DAMMATAN;2KASRATAN
1t HIGH WAW;1FATHA z RING;3DOT a;1KASRA z DOT c;1o bHEAD a;1q bHEAD a;1o bHEAD c;1q bHEAD c
1i q bHEAD a;5z DOT;1q bHEAD a z DOT;1DAMMA z DOT;1MARK SIDEWAYS NOON GHUNNA
0DEVANAGARI s INVERTED CANDRABINDU;2CANDRABINDU;2ANUSVARA;2VISARGA;1p SHORT A;2A;2AA;2I;2II;2U;2UU
2VOCALIC R;3L;2CANDRA E;2SHORT E;2E;2AI;2CANDRA O;2SHORT O;2O;2AU;2KA;2KHA;2GA;2GHA;2NGA;2CA;2CHA
2JA;2JHA;2NYA;2TTA;2TTHA;2DDA;2DDHA;2NNA;2TA;2THA;2DA;2DHA;2NA;2NNNA;2PA;2PHA;2BA;2BHA;2MA;2YA;2RA
2RRA;2LA;2LLA;2LLLA;2VA;2SHA;2SSA;2SA;2HA;1VOWEL s OE;3OOE;1s NUKTA;2AVAGRAHA;1VOWEL s AA;3I;3II;3U
3UU;3VOCALIC R;4RR;3CANDRA E;3SHORT E;3E;3AI;3CANDRA O;3SHORT O;3O;3AU;1s VIRAMA
1VOWEL s PRISHTHAMATRA E;3AW;1OM;1STRESS s UDATTA;3ANUDATTA;1GRAVE ACCENT;1ACUTE ACCENT
1VOWEL s CANDRA LONG E;3UE;3UUE;1p QA;2KHHA;2GHHA;2ZA;2DDDHA;2RHA;2FA;2YYA;2VOCALIC RR;3LL
1VOWEL s VOCALIC L;4LL;1DANDA;1i DANDA;1DIGIT ZERO;2ONE;2TWO;2w;2FOUR;2FIVE;2SIX;2SEVEN;2EIGHT
2NINE;1ABBREVIATION s;1s HIGH SPACING DOT;1p CANDRA A;2OE;2OOE;2AW;2UE;2UUE;2MARWARI DDA;2ZHA
2HEAVY YA;2GGA;2JJA;2GLOTTAL STOP;2DDDA;2BBA;0BENGALI ANJI;1s CANDRABINDU;2ANUSVARA;2VISARGA
985=1p A;2AA;2I;2II;2U;2UU;2VOCALIC R;3L;98F=2E;2AI;993=2O;2AU;2KA;2KHA;2GA;2GHA;2NGA;2CA;2CHA;2JA
2JHA;2NYA;2TTA;2TTHA;2DDA;2DDHA;2NNA;2TA;2THA;2DA;2DHA;2NA;9AA=2PA;2PHA;2BA;2BHA;2MA;2YA;2RA
9B2=2LA;9B6=2SHA;2SSA;2SA;2HA;9BC=1s NUKTA;2AVAGRAHA;1VOWEL s AA;3I;3II;3U;3UU;3VOCALIC R;4RR
9C7=3E;3AI;9CB=3O;3AU;1s VIRAMA;1p KHANDA TA;9D7=1AU LENGTH MARK;9DC=1p RRA;2RHA;9DF=2YYA
2VOCALIC RR;3LL;1VOWEL s VOCALIC L;4LL;9E6=1DIGIT ZERO;2ONE;2TWO;2w;2FOUR;2FIVE;2SIX;2SEVEN;2EIGHT
2NINE;1p RA z MIDDLE DIAGONAL;4LOWER DIAGONAL;1RUPEE MARK;2s;1CURRENCY NUMERATOR ONE;3TWO;3w;3FOUR
3ONE LESS THAN THE DENOMINATOR;2DENOMINATOR SIXTEEN;1ISSHAR;1GANDA MARK;1p VEDIC ANUSVARA
1ABBREVIATION s;1SANDHI MARK;A01=0GURMUKHI s ADAK BINDI;2BINDI;2VISARGA;A05=1p A;2AA;2I;2II;2U;2UU
A0F=2EE;2AI;A13=2OO;2AU;2KA;2KHA;2GA;2GHA;2NGA;2CA;2CHA;2JA;2JHA;2NYA;2TTA;2TTHA;2DDA;2DDHA;2NNA
2TA;2THA;2DA;2DHA;2NA;A2A=2PA;2PHA;2BA;2BHA;2MA;2YA;2RA;A32=2LA;2LLA;A35=2VA;2SHA;A38=2SA;2HA
A3C=1s NUKTA;A3E=1VOWEL s AA;3I;3II;3U;3UU;A47=3EE;3AI;A4B=3OO;3AU;1s VIRAMA;A51=2UDAAT;A59=1p KHHA
2GHHA;2ZA;2RRA;A5E=2FA;A66=1DIGIT ZERO;2ONE;2TWO;2w;2FOUR;2FIVE;2SIX;2SEVEN;2EIGHT;2NINE;1TIPPI
1ADDAK;1IRI;1URA;1EK ONKAR;1s YAKASH;1ABBREVIATION s;A81=0GUJARATI s CANDRABINDU;2ANUSVARA;2VISARGA
A85=1p A;2AA;2I;2II;2U;2UU;2VOCALIC R;3L;1VOWEL CANDRA E;A8F=1p E;2AI;1VOWEL CANDRA O;A93=1p O;2AU
2KA;2KHA;2GA;2GHA;2NGA;2CA;2CHA;2JA;2JHA;2NYA;2TTA;2TTHA;2DDA;2DDHA;2NNA;2TA;2THA;2DA;2DHA;2NA
AAA=2PA;2PHA;2BA;2BHA;2MA;2YA;2RA;AB2=2LA;2LLA;AB5=2VA;2SHA;2SSA;2SA;2HA;ABC=1s NUKTA;2AVAGRAHA
1VOWEL s AA;3I;3II;3U;3UU;3VOCALIC R;4RR;3CANDRA E;AC7=3E;3AI;3CANDRA O;ACB=3O;3AU;1s VIRAMA
AD0=1OM;AE0=1p VOCALIC RR;3LL;1VOWEL s VOCALIC L;4LL;AE6=1DIGIT ZERO;2ONE;2TWO;2w;2FOUR;2FIVE;2SIX
2SEVEN;2EIGHT;2NINE;1ABBREVIATION s;1RUPEE s;AF9=1p ZHA;1s SUKUN;2SHADDA;2MADDAH;2w-DOT NUKTA a
2f NUKTA a;2TWO-f NUKTA a;B01=0ORIYA s CANDRABINDU;2ANUSVARA;2VISARGA;B05=1p A;2AA;2I;2II;2U;2UU
2VOCALIC R;3L;B0F=2E;2AI;B13=2O;2AU;2KA;2KHA;2GA;2GHA;2NGA;2CA;2CHA;2JA;2JHA;2NYA;2TTA;2TTHA;2DDA
2DDHA;2NNA;2TA;2THA;2DA;2DHA;2NA;B2A=2PA;2PHA;2BA;2BHA;2MA;2YA;2RA;B32=2LA;2LLA;B35=2VA;2SHA;2SSA
2SA;2HA;B3C=1s NUKTA;2AVAGRAHA;1VOWEL s AA;3I;3II;3U;3UU;3VOCALIC R;4RR;B47=3E;3AI;B4B=3O;3AU
1s VIRAMA;B55=2OVERLINE;1AI LENGTH MARK;1AU LENGTH MARK;B5C=1p RRA;2RHA;B5F=2YYA;2VOCALIC RR;3LL
1VOWEL s VOCALIC L;4LL;B66=1DIGIT ZERO;2ONE;2TWO;2w;2FOUR;2FIVE;2SIX;2SEVEN;2EIGHT;2NINE;1ISSHAR
1p WA;1FRACTION ONE QUARTER;3HALF;2w QUARTERS;2ONE SIXTEENTH;3EIGHTH;2w SIXTEENTHS
B82=0TAMIL s ANUSVARA;2VISARGA;B85=1p A;2AA;2I;2II;2U;2UU;B8E=2E;2EE;2AI;B92=2O;2OO;2AU;2KA
B99=2NGA;2CA;B9C=2JA;B9E=2NYA;2TTA;BA3=2NNA;2TA;BA8=2NA;2NNNA;2PA;BAE=2MA;2YA;2RA;2RRA;2LA;2LLA
2LLLA;2VA;2SHA;2SSA;2SA;2HA;BBE=1VOWEL s AA;3I;3II;3U;3UU;BC6=3E;3EE;3AI;BCA=3O;3OO;3AU;1s VIRAMA
BD0=1OM;BD7=1AU LENGTH MARK;BE6=1DIGIT ZERO;2ONE;2TWO;2w;2FOUR;2FIVE;2SIX;2SEVEN;2EIGHT;2NINE
1NUMBER TEN;2ONE HUNDRED;3THOUSAND;1DAY s;1MONTH s;1YEAR s;1DEBIT s;1CREDIT s;1AS a s;1RUPEE s
1NUMBER s;C00=0TELUGU s COMBINING CANDRABINDU a;2CANDRABINDU;2ANUSVARA;2VISARGA
2COMBINING ANUSVARA a;1p A;2AA;2I;2II;2U;2UU;2VOCALIC R;3L;C0E=2E;2EE;2AI;C12=2O;2OO;2AU;2KA;2KHA
2GA;2GHA;2NGA;2CA;2CHA;2JA;2JHA;2NYA;2TTA;2TTHA;2DDA;2DDHA;2NNA;2TA;2THA;2DA;2DHA;2NA;C2A=2PA;2PHA
2BA;2BHA;2MA;2YA;2RA;2RRA;2LA;2LLA;2LLLA;2VA;2SHA;2SSA;2SA;2HA;C3C=1s NUKTA;2AVAGRAHA;1VOWEL s AA
3I;3II;3U;3UU;3VOCALIC R;4RR;C46=3E;3EE;3AI;C4A=3O;3OO;3AU;1s VIRAMA;C55=1LENGTH MARK
1AI LENGTH MARK;C58=1p TSA;2DZA;2RRRA;C5D=2NAKAARA POLLU;C60=2VOCALIC RR;3LL;1VOWEL s VOCALIC L;4LL
C66=1DIGIT ZERO;2ONE;2TWO;2w;2FOUR;2FIVE;2SIX;2SEVEN;2EIGHT;2NINE;C77=1s SIDDHAM
1FRACTION DIGIT ZERO FOR ODD POWERS OF FOUR;3ONE FOR ODD POWERS OF FOUR;3TWO FOR ODD POWERS OF FOUR
3w FOR ODD POWERS OF FOUR;3ONE FOR EVEN POWERS OF FOUR;3TWO FOR EVEN POWERS OF FOUR
3w FOR EVEN POWERS OF FOUR;1s TUUMU;0KANNADA s SPACING CANDRABINDU;2CANDRABINDU;2ANUSVARA;2VISARGA
2SIDDHAM;1p A;2AA;2I;2II;2U;2UU;2VOCALIC R;3L;C8E=2E;2EE;2AI;C92=2O;2OO;2AU;2KA;2KHA;2GA;2GHA;2NGA
2CA;2CHA;2JA;2JHA;2NYA;2TTA;2TTHA;2DDA;2DDHA;2NNA;2TA;2THA;2DA;2DHA;2NA;CAA=2PA;2PHA;2BA;2BHA;2MA
2YA;2RA;2RRA;2LA;2LLA;CB5=2VA;2SHA;2SSA;2SA;2HA;CBC=1s NUKTA;2AVAGRAHA;1VOWEL s AA;3I;3II;3U;3UU
3VOCALIC R;4RR;CC6=3E;3EE;3AI;CCA=3O;3OO;3AU;1s VIRAMA;CD5=1LENGTH MARK;1AI LENGTH MARK
CDD=1p NAKAARA POLLU;2FA;CE0=2VOCALIC RR;3LL;1VOWEL s VOCALIC L;4LL;CE6=1DIGIT ZERO;2ONE;2TWO;2w
2FOUR;2FIVE;2SIX;2SEVEN;2EIGHT;2NINE;CF1=1s JIHVAMULIYA;2UPADHMANIYA
D00=0MALAYALAM s COMBINING ANUSVARA a;2CANDRABINDU;2ANUSVARA;2VISARGA;1p VEDIC ANUSVARA;2A;2AA;2I
2II;2U;2UU;2VOCALIC R;3L;D0E=2E;2EE;2AI;D12=2O;2OO;2AU;2KA;2KHA;2GA;2GHA;2NGA;2CA;2CHA;2JA;2JHA
2NYA;2TTA;2TTHA;2DDA;2DDHA;2NNA;2TA;2THA;2DA;2DHA;2NA;2NNNA;2PA;2PHA;2BA;2BHA;2MA;2YA;2RA;2RRA;2LA
2LLA;2LLLA;2VA;2SHA;2SSA;2SA;2HA;2TTTA;1s y BAR VIRAMA;2CIRCULAR VIRAMA;2AVAGRAHA;1VOWEL s AA;3I
3II;3U;3UU;3VOCALIC R;4RR;D46=3E;3EE;3AI;D4A=3O;3OO;3AU;1s VIRAMA;1p DOT REPH;1s PARA
D54=1p CHILLU M;3Y;3LLL;1AU LENGTH MARK;1FRACTION ONE ONE-HUNDRED-AND-SIXTIETH;3FORTIETH
2w EIGHTIETHS;2ONE TWENTIETH;3TENTH;2w TWENTIETHS;2ONE FIFTH;1p ARCHAIC II;2VOCALIC RR;3LL
1VOWEL s VOCALIC L;4LL;D66=1DIGIT ZERO;2ONE;2TWO;2w;2FOUR;2FIVE;2SIX;2SEVEN;2EIGHT;2NINE
1NUMBER TEN;2ONE HUNDRED;3THOUSAND;1FRACTION ONE QUARTER;3HALF;2w QUARTERS;2ONE SIXTEENTH;3EIGHTH
2w SIXTEENTHS;1DATE MARK;1p CHILLU NN;3N;3RR;3L;3LL;3K;D81=0SINHALA s CANDRABINDU;2ANUSVARAYA
2VISARGAYA;D85=1p AYANNA;2AAYANNA;2AEYANNA;2AEEYANNA;2IYANNA;2IIYANNA;2UYANNA;2UUYANNA;2IRUYANNA
2IRUUYANNA;2ILUYANNA;2ILUUYANNA;2EYANNA;2EEYANNA;2AIYANNA;2OYANNA;2OOYANNA;2AUYANNA
D9A=2ALPAPRAANA KAYANNA;2MAHAAPRAANA KAYANNA;2ALPAPRAANA GAYANNA;2MAHAAPRAANA GAYANNA
2KANTAJA NAASIKYAYA;2SANYAKA GAYANNA;2ALPAPRAANA CAYANNA;2MAHAAPRAANA CAYANNA;2ALPAPRAANA JAYANNA
2MAHAAPRAANA JAYANNA;2TAALUJA NAASIKYAYA;3SANYOOGA NAAKSIKYAYA;2SANYAKA JAYANNA
2ALPAPRAANA TTAYANNA;2MAHAAPRAANA TTAYANNA;2ALPAPRAANA DDAYANNA;2MAHAAPRAANA DDAYANNA
2MUURDHAJA NAYANNA;2SANYAKA DDAYANNA;2ALPAPRAANA TAYANNA;2MAHAAPRAANA TAYANNA;2ALPAPRAANA DAYANNA
2MAHAAPRAANA DAYANNA;2DANTAJA NAYANNA;DB3=2SANYAKA DAYANNA;2ALPAPRAANA PAYANNA;2MAHAAPRAANA PAYANNA
2ALPAPRAANA BAYANNA;2MAHAAPRAANA BAYANNA;2MAYANNA;2AMBA BAYANNA;2YAYANNA;2RAYANNA
DBD=2DANTAJA LAYANNA;DC0=2VAYANNA;2TAALUJA SAYANNA;2MUURDHAJA SAYANNA;2DANTAJA SAYANNA;2HAYANNA
2MUURDHAJA LAYANNA;2FAYANNA;DCA=1s AL-LAKUNA;DCF=1VOWEL s AELA-PILLA;3KETTI AEDA-PILLA
3DIGA AEDA-PILLA;3KETTI IS-PILLA;3DIGA IS-PILLA;3KETTI PAA-PILLA;DD6=3DIGA PAA-PILLA
DD8=3GAETTA-PILLA;3KOMBUVA;3DIGA KOMBUVA;3KOMBU DEKA;3KOMBUVA HAA AELA-PILLA;5DIGA AELA-PILLA
5GAYANUKITTA;3GAYANUKITTA;DE6=1LITH DIGIT ZERO;3ONE;3TWO;3w;3FOUR;3FIVE;3SIX;3SEVEN;3EIGHT;3NINE
DF2=1VOWEL s DIGA GAETTA-PILLA;4GAYANUKITTA;1PUNCTUATION KUNDDALIYA;E01=0THAI CHARACTER KO KAI
2KHO KHAI;3KHUAT;3KHWAI;3KHON;3RAKHANG;2NGO NGU;2CHO CHAN;3CHING;3CHANG;2SO SO;2CHO CHOE;2YO YING
2DO CHADA;2TO PATAK;2THO THAN;3NANGMONTHO;3PHUTHAO;2NO NEN;2DO DEK;2TO TAO;2THO THUNG;3THAHAN
3THONG;2NO NU;2BO BAIMAI;2PO PLA;2PHO PHUNG;2FO FA;2PHO PHAN;2FO FAN;2PHO SAMPHAO;2MO MA;2YO YAK
2RO RUA;2RU;2LO LING;2LU;2WO WAEN;2SO SALA;3RUSI;3SUA;2HO HIP;2LO CHULA;2O ANG;2HO NOKHUK
2PAIYANNOI;2SARA A;2MAI HAN-AKAT;2SARA AA;3AM;3I;3II;3UE;3UEE;3U;3UU;2PHINTHU;E3F=1CURRENCY v BAHT
1CHARACTER SARA E;3AE;3O;3AI MAIMUAN;4MAIMALAI;2LAKKHANGYAO;2MAIYAMOK;2MAITAIKHU;2MAI EK;3THO;3TRI
3CHATTAWA;2THANTHAKHAT;2NIKHAHIT;2YAMAKKAN;2FONGMAN;1DIGIT ZERO;2ONE;2TWO;2w;2FOUR;2FIVE;2SIX
2SEVEN;2EIGHT;2NINE;1CHARACTER ANGKHANKHU;2KHOMUT;E81=0LAO p KO;2KHO SUNG;E84=3TAM;E86=2PALI GHA
2NGO;2CO;2PALI CHA;2SO TAM;E8C=2PALI JHA;2NYO;2PALI NYA;3TTA;3TTHA;3DDA;3DDHA;3NNA;2DO;2TO
2THO SUNG;3TAM;2PALI DHA;2NO;2BO;2PO;2PHO SUNG;2FO TAM;2PHO TAM;2FO SUNG;2PALI BHA;2MO;2YO;2LO LING
EA5=3LOOT;EA7=2WO;2SANSKRIT SHA;3SSA;2SO SUNG;2HO SUNG;2PALI LLA;2O;2HO TAM;1ELLIPSIS;1VOWEL s A
3MAI KAN;3AA;3AM;3I;3II;3Y;3YY;3U;3UU;1s PALI VIRAMA;1VOWEL s MAI KON;1SEMIVOWEL s LO;3NYO
EC0=1VOWEL s E;3EI;3O;3AY;3AI;EC6=1KO LA;EC8=1TONE MAI EK;3THO;3TI;3CATAWA;1CANCELLATION MARK
1NIGGAHITA;ED0=1DIGIT ZERO;2ONE;2TWO;2w;2FOUR;2FIVE;2SIX;2SEVEN;2EIGHT;2NINE;EDC=1HO NO;2MO
1p KHMU GO;3NYO;F00=0TIBETAN SYLLABLE OM;1MARK GTER YIG MGO TRUNCATED A;5-UM RNAM BCAD MA
6GTER TSHEG MA;2m YIG MGO MDUN MA;2CLOSING YIG MGO SGAB MA;2CARET YIG MGO PHUR SHAD MA
2YIG MGO TSHEG SHAD MA;2SBRUL SHAD;2BSKUR YIG MGO;2BKA- SHOG YIG MGO;2INTERSYLLABIC TSHEG
2DELIMITER TSHEG BSTAR;2SHAD;2NYIS SHAD;2TSHEG SHAD;2NYIS TSHEG SHAD;2RIN CHEN SPUNGS SHAD
2RGYA GRAM SHAD;2CARET -DZUD RTAGS ME LONG CAN;2GTER TSHEG;1LOGOTYPE s CHAD RTAGS;3LHAG RTAGS
1ASTROLOGICAL s SGRA GCAN -CHAR RTAGS;3-KHYUD PA;3SDONG TSHUGS;1s RDEL DKAR GCIG;4GNYIS;4GSUM
3NAG GCIG;4GNYIS;3DKAR RDEL NAG;1DIGIT ZERO;2ONE;2TWO;2w;2FOUR;2FIVE;2SIX;2SEVEN;2EIGHT;2NINE
2HALF ONE;3TWO;3w;3FOUR;3FIVE;3SIX;3SEVEN;3EIGHT;3NINE;3ZERO;1MARK BSDUS RTAGS;2NGAS BZUNG NYI ZLA
2CARET -DZUD RTAGS BZHI MIG CAN;2NGAS BZUNG SGOR RTAGS;2CHE MGO;2TSA -PHRU;2GUG RTAGS GYON;4GYAS
2ANG KHANG GYON;4GYAS;1s YAR TSHES;2MAR TSHES;1p KA;2KHA;2GA;2GHA;2NGA;2CA;2CHA;2JA;F49=2NYA;2TTA
2TTHA;2DDA;2DDHA;2NNA;2TA;2THA;2DA;2DHA;2NA;2PA;2PHA;2BA;2BHA;2MA;2TSA;2TSHA;2DZA;2DZHA;2WA;2ZHA
2ZA;2-A;2YA;2RA;2LA;2SHA;2SSA;2SA;2HA;2A;2KSSA;2FIXED-k RA;2KKA;2RRA;F71=1VOWEL s AA;3I;3II;3U;3UU
3VOCALIC R;4RR;4L;4LL;3E;3EE;3O;3OO;1s RJES SU NGA RO;2RNAM BCAD;1VOWEL s REVERSED I;4II
1s NYI ZLA NAA DA;2SNA LDAN;1MARK HALANTA;2PALUTA;1s LCI RTAGS;2YANG RTAGS;2LCE TSA CAN;2MCHU CAN
2GRU CAN RGYINGS;3MED RGYINGS;2INVERTED MCHU CAN;1SUBJOINED s LCE TSA CAN;3MCHU CAN
3INVERTED MCHU CAN;2p KA;3KHA;3GA;3GHA;3NGA;3CA;3CHA;3JA;F99=3NYA;3TTA;3TTHA;3DDA;3DDHA;3NNA;3TA
3THA;3DA;3DHA;3NA;3PA;3PHA;3BA;3BHA;3MA;3TSA;3TSHA;3DZA;3DZHA;3WA;3ZHA;3ZA;3-A;3YA;3RA;3LA;3SHA
3SSA;3SA;3HA;3A;3KSSA;3FIXED-k WA;4YA;4RA;FBE=1KU RU KHA;4BZHI MIG CAN;1CANTILLATION s HEAVY BEAT
3LIGHT BEAT;3CANG TE-U;3SBUB -CHAL;1v DRIL BU;2RDO RJE;2PADMA GDAN;2RDO RJE RGYA GRAM;2PHUR PA
2NOR BU;4NYIS -KHYIL;4GSUM -KHYIL;4BZHI -KHYIL;FCE=1s RDEL NAG RDEL DKAR;4GSUM
1MARK BSKA- SHOG GI MGO RGYAN;2MNYAM YIG GI MGO RGYAN;2NYIS TSHEG;2m BRDA RNYING YIG MGO MDUN MA
2CLOSING BRDA RNYING YIG MGO SGAB MA;0q-FACING SVASTI s;0o-FACING SVASTI s;0q-FACING SVASTI s z h
0o-FACING SVASTI s z h;0TIBETAN MARK LEADING MCHAN RTAGS;2TRAILING MCHAN RTAGS;1000=0MYANMAR p KA
2KHA;2GA;2GHA;2NGA;2CA;2CHA;2JA;2JHA;2NYA;2NNYA;2TTA;2TTHA;2DDA;2DDHA;2NNA;2TA;2THA;2DA;2DHA;2NA
2PA;2PHA;2BA;2BHA;2MA;2YA;2RA;2LA;2WA;2SA;2HA;2LLA;2A;2SHAN A;2I;2II;2U;2UU;2E;2MON E;2O;2AU
1VOWEL s TALL AA;3AA;3I;3II;3U;3UU;3E;3AI;3MON II;4O;3E a;1s ANUSVARA;2DOT c;2VISARGA;2VIRAMA;2ASAT
1CONSONANT s MEDIAL YA;4RA;4WA;4HA;1p GREAT SA;1DIGIT ZERO;2ONE;2TWO;2w;2FOUR;2FIVE;2SIX;2SEVEN
2EIGHT;2NINE;1s LITTLE SECTION;2SECTION;1v LOCATIVE;2COMPLETED;2AFOREMENTIONED;2GENITIVE;1p SHA
2SSA;2VOCALIC R;3RR;3L;3LL;1VOWEL s VOCALIC R;4RR;4L;4LL;1p MON NGA;3JHA;3BBA;3BBE
1CONSONANT s MON MEDIAL NA;5MA;5LA;1p SGAW KAREN SHA;1VOWEL s SGAW KAREN EU
1TONE MARK SGAW KAREN HATHI;5KE PHO;1p WESTERN PWO KAREN THA;5PWA;1VOWEL s WESTERN PWO KAREN EU;6UE
1s WESTERN PWO KAREN TONE-1;5TONE-2;5TONE-3;5TONE-4;5TONE-5;1p EASTERN PWO KAREN NNA;5YWA;5GHWA
1VOWEL s GEBA KAREN I;3KAYAH OE;4U;4EE;1p SHAN KA;3KHA;3GA;3CA;3ZA;3NYA;3DA;3NA;3PHA;3FA;3BA;3THA
3HA;1CONSONANT s SHAN MEDIAL WA;1VOWEL s SHAN AA;4E;5a;4j Y;1s SHAN TONE-2;3TONE-3;3TONE-5;3TONE-6
3COUNCIL TONE-2;4TONE-3;4EMPHATIC TONE;1p RUMAI PALAUNG FA;1s RUMAI PALAUNG TONE-5;1SHAN DIGIT ZERO
3ONE;3TWO;3w;3FOUR;3FIVE;3SIX;3SEVEN;3EIGHT;3NINE;1s KHAMTI TONE-1;3TONE-3;1VOWEL s AITON A;4AI
1v SHAN ONE;3EXCLAMATION;0GEORGIAN e p AN;3BAN;3GAN;3DON;3EN;3VIN;3ZEN;3TAN;3IN;3KAN;3LAS;3MAN;3NAR
3ON;3PAR;3ZHAR;3RAE;3SAN;3TAR;3UN;3PHAR;3KHAR;3GHAN;3QAR;3SHIN;3CHIN;3CAN;3JIL;3CIL;3CHAR;3XAN
3JHAN;3HAE;3HE;3HIE;3WE;3HAR;3HOE;10C7=3YN;10CD=3AEN;10D0=1p AN;2BAN;2GAN;2DON;2EN;2VIN;2ZEN;2TAN
2IN;2KAN;2LAS;2MAN;2NAR;2ON;2PAR;2ZHAR;2RAE;2SAN;2TAR;2UN;2PHAR;2KHAR;2GHAN;2QAR;2SHIN;2CHIN;2CAN
2JIL;2CIL;2CHAR;2XAN;2JHAN;2HAE;2HE;2HIE;2WE;2HAR;2HOE;2FI;2YN;2ELIFI;2TURNED GAN;2AIN
1PARAGRAPH SEPARATOR;0MODIFIER p GEORGIAN NAR;0GEORGIAN p AEN;2HARD s;2LABIAL s
0HANGUL CHOSEONG KIYEOK;2SSANGKIYEOK;2NIEUN;2TIKEUT;2SSANGTIKEUT;2RIEUL;2MIEUM;2PIEUP;2SSANGPIEUP
2SIOS;2SSANGSIOS;2IEUNG;2CIEUC;2SSANGCIEUC;2CHIEUCH;2KHIEUKH;2THIEUTH;2PHIEUPH;2HIEUH;2NIEUN-KIYEOK
2SSANGNIEUN;2NIEUN-TIKEUT;2NIEUN-PIEUP;2TIKEUT-KIYEOK;2RIEUL-NIEUN;2SSANGRIEUL;2RIEUL-HIEUH
2KAPYEOUNRIEUL;2MIEUM-PIEUP;2KAPYEOUNMIEUM;2PIEUP-KIYEOK;2PIEUP-NIEUN;2PIEUP-TIKEUT;2PIEUP-SIOS
2PIEUP-SIOS-KIYEOK;2PIEUP-SIOS-TIKEUT;2PIEUP-SIOS-PIEUP;2PIEUP-SSANGSIOS;2PIEUP-SIOS-CIEUC
2PIEUP-CIEUC;2PIEUP-CHIEUCH;2PIEUP-THIEUTH;2PIEUP-PHIEUPH;2KAPYEOUNPIEUP;2KAPYEOUNSSANGPIEUP
2SIOS-KIYEOK;2SIOS-NIEUN;2SIOS-TIKEUT;2SIOS-RIEUL;2SIOS-MIEUM;2SIOS-PIEUP;2SIOS-PIEUP-KIYEOK
2SIOS-SSANGSIOS;2SIOS-IEUNG;2SIOS-CIEUC;2SIOS-CHIEUCH;2SIOS-KHIEUKH;2SIOS-THIEUTH;2SIOS-PHIEUPH
2SIOS-HIEUH;2CHITUEUMSIOS;2CHITUEUMSSANGSIOS;2CEONGCHIEUMSIOS;2CEONGCHIEUMSSANGSIOS;2PANSIOS
2IEUNG-KIYEOK;2IEUNG-TIKEUT;2IEUNG-MIEUM;2IEUNG-PIEUP;2IEUNG-SIOS;2IEUNG-PANSIOS;2SSANGIEUNG
2IEUNG-CIEUC;2IEUNG-CHIEUCH;2IEUNG-THIEUTH;2IEUNG-PHIEUPH;2YESIEUNG;2CIEUC-IEUNG;2CHITUEUMCIEUC
2CHITUEUMSSANGCIEUC;2CEONGCHIEUMCIEUC;2CEONGCHIEUMSSANGCIEUC;2CHIEUCH-KHIEUKH;2CHIEUCH-HIEUH
2CHITUEUMCHIEUCH;2CEONGCHIEUMCHIEUCH;2PHIEUPH-PIEUP;2KAPYEOUNPHIEUPH;2SSANGHIEUH;2YEORINHIEUH
2KIYEOK-TIKEUT;2NIEUN-SIOS;2NIEUN-CIEUC;2NIEUN-HIEUH;2TIKEUT-RIEUL;2FILLER;1JUNGSEONG FILLER;2A;2AE
2YA;2YAE;2EO;2E;2YEO;2YE;2O;2WA;2WAE;2OE;2YO;2U;2WEO;2WE;2WI;2YU;2EU;2YI;2I;2A-O;2A-U;2YA-O;2YA-YO
2EO-O;2EO-U;2EO-EU;2YEO-O;2YEO-U;2O-EO;2O-E;2O-YE;2O-O;2O-U;2YO-YA;2YO-YAE;2YO-YEO;2YO-O;2YO-I;2U-A
2U-AE;2U-EO-EU;2U-YE;2U-U;2YU-A;2YU-EO;2YU-E;2YU-YEO;2YU-YE;2YU-U;2YU-I;2EU-U;2EU-EU;2YI-U;2I-A
2I-YA;2I-O;2I-U;2I-EU;2I-ARAEA;2ARAEA;2ARAEA-EO;2ARAEA-U;2ARAEA-I;2SSANGARAEA;2A-EU;2YA-U;2YEO-YA
2O-YA;2O-YAE;1JONGSEONG KIYEOK;2SSANGKIYEOK;2KIYEOK-SIOS;2NIEUN;2NIEUN-CIEUC;2NIEUN-HIEUH;2TIKEUT
2RIEUL;2RIEUL-KIYEOK;2RIEUL-MIEUM;2RIEUL-PIEUP;2RIEUL-SIOS;2RIEUL-THIEUTH;2RIEUL-PHIEUPH
2RIEUL-HIEUH;2MIEUM;2PIEUP;2PIEUP-SIOS;2SIOS;2SSANGSIOS;2IEUNG;2CIEUC;2CHIEUCH;2KHIEUKH;2THIEUTH
2PHIEUPH;2HIEUH;2KIYEOK-RIEUL;2KIYEOK-SIOS-KIYEOK;2NIEUN-KIYEOK;2NIEUN-TIKEUT;2NIEUN-SIOS
2NIEUN-PANSIOS;2NIEUN-THIEUTH;2TIKEUT-KIYEOK;2TIKEUT-RIEUL;2RIEUL-KIYEOK-SIOS;2RIEUL-NIEUN
2RIEUL-TIKEUT;2RIEUL-TIKEUT-HIEUH;2SSANGRIEUL;2RIEUL-MIEUM-KIYEOK;2RIEUL-MIEUM-SIOS
2RIEUL-PIEUP-SIOS;2RIEUL-PIEUP-HIEUH;2RIEUL-KAPYEOUNPIEUP;2RIEUL-SSANGSIOS;2RIEUL-PANSIOS
2RIEUL-KHIEUKH;2RIEUL-YEORINHIEUH;2MIEUM-KIYEOK;2MIEUM-RIEUL;2MIEUM-PIEUP;2MIEUM-SIOS
2MIEUM-SSANGSIOS;2MIEUM-PANSIOS;2MIEUM-CHIEUCH;2MIEUM-HIEUH;2KAPYEOUNMIEUM;2PIEUP-RIEUL
2PIEUP-PHIEUPH;2PIEUP-HIEUH;2KAPYEOUNPIEUP;2SIOS-KIYEOK;2SIOS-TIKEUT;2SIOS-RIEUL;2SIOS-PIEUP
2PANSIOS;2IEUNG-KIYEOK;2IEUNG-SSANGKIYEOK;2SSANGIEUNG;2IEUNG-KHIEUKH;2YESIEUNG;2YESIEUNG-SIOS
2YESIEUNG-PANSIOS;2PHIEUPH-PIEUP;2KAPYEOUNPHIEUPH;2HIEUH-NIEUN;2HIEUH-RIEUL;2HIEUH-MIEUM
2HIEUH-PIEUP;2YEORINHIEUH;2KIYEOK-NIEUN;2KIYEOK-PIEUP;2KIYEOK-CHIEUCH;2KIYEOK-KHIEUKH;2KIYEOK-HIEUH
2SSANGNIEUN;0ETHIOPIC SYLLABLE HA;2HU;2HI;2HAA;2HEE;2HE;2HO;2HOA;2LA;2LU;2LI;2LAA;2LEE;2LE;2LO;2LWA
2HHA;2HHU;2HHI;2HHAA;2HHEE;2HHE;2HHO;2HHWA;2MA;2MU;2MI;2MAA;2MEE;2ME;2MO;2MWA;2SZA;2SZU;2SZI;2SZAA
2SZEE;2SZE;2SZO;2SZWA;2RA;2RU;2RI;2RAA;2REE;2RE;2RO;2RWA;2SA;2SU;2SI;2SAA;2SEE;2SE;2SO;2SWA;2SHA
2SHU;2SHI;2SHAA;2SHEE;2SHE;2SHO;2SHWA;2QA;2QU;2QI;2QAA;2QEE;2QE;2QO;2QOA;2QWA;124A=2QWI;2QWAA;2QWEE
2QWE;1250=2QHA;2QHU;2QHI;2QHAA;2QHEE;2QHE;2QHO;1258=2QHWA;125A=2QHWI;2QHWAA;2QHWEE;2QHWE;1260=2BA
2BU;2BI;2BAA;2BEE;2BE;2BO;2BWA;2VA;2VU;2VI;2VAA;2VEE;2VE;2VO;2VWA;2TA;2TU;2TI;2TAA;2TEE;2TE;2TO
2TWA;2CA;2CU;2CI;2CAA;2CEE;2CE;2CO;2CWA;2XA;2XU;2XI;2XAA;2XEE;2XE;2XO;2XOA;2XWA;128A=2XWI;2XWAA
2XWEE;2XWE;1290=2NA;2NU;2NI;2NAA;2NEE;2NE;2NO;2NWA;2NYA;2NYU;2NYI;2NYAA;2NYEE;2NYE;2NYO;2NYWA
2GLOTTAL A;3U;3I;3AA;3EE;3E;3O;3WA;2KA;2KU;2KI;2KAA;2KEE;2KE;2KO;2KOA;2KWA;12B2=2KWI;2KWAA;2KWEE
2KWE;12B8=2KXA;2KXU;2KXI;2KXAA;2KXEE;2KXE;2KXO;12C0=2KXWA;12C2=2KXWI;2KXWAA;2KXWEE;2KXWE;12C8=2WA
2WU;2WI;2WAA;2WEE;2WE;2WO;2WOA;2PHARYNGEAL A;3U;3I;3AA;3EE;3E;3O;12D8=2ZA;2ZU;2ZI;2ZAA;2ZEE;2ZE;2ZO
2ZWA;2ZHA;2ZHU;2ZHI;2ZHAA;2ZHEE;2ZHE;2ZHO;2ZHWA;2YA;2YU;2YI;2YAA;2YEE;2YE;2YO;2YOA;2DA;2DU;2DI;2DAA
2DEE;2DE;2DO;2DWA;2DDA;2DDU;2DDI;2DDAA;2DDEE;2DDE;2DDO;2DDWA;2JA;2JU;2JI;2JAA;2JEE;2JE;2JO;2JWA;2GA
2GU;2GI;2GAA;2GEE;2GE;2GO;2GOA;2GWA;1312=2GWI;2GWAA;2GWEE;2GWE;1318=2GGA;2GGU;2GGI;2GGAA;2GGEE;2GGE
2GGO;2GGWAA;2THA;2THU;2THI;2THAA;2THEE;2THE;2THO;2THWA;2CHA;2CHU;2CHI;2CHAA;2CHEE;2CHE;2CHO;2CHWA
2PHA;2PHU;2PHI;2PHAA;2PHEE;2PHE;2PHO;2PHWA;2TSA;2TSU;2TSI;2TSAA;2TSEE;2TSE;2TSO;2TSWA;2TZA;2TZU
2TZI;2TZAA;2TZEE;2TZE;2TZO;2TZOA;2FA;2FU;2FI;2FAA;2FEE;2FE;2FO;2FWA;2PA;2PU;2PI;2PAA;2PEE;2PE;2PO
2PWA;2RYA;2MYA;2FYA;135D=1COMBINING GEMINATION AND VOWEL LENGTH MARK;2VOWEL LENGTH MARK
2GEMINATION MARK;1SECTION MARK;1WORDSPACE;1FULL STOP;1COMMA;1SEMICOLON;1COLON;1PREFACE COLON
1QUESTION MARK;1PARAGRAPH SEPARATOR;1DIGIT ONE;2TWO;2w;2FOUR;2FIVE;2SIX;2SEVEN;2EIGHT;2NINE
1NUMBER TEN;2TWENTY;2THIRTY;2FORTY;2FIFTY;2SIXTY;2SEVENTY;2EIGHTY;2NINETY;2HUNDRED;2TEN THOUSAND
1380=1SYLLABLE SEBATBEIT MWA;2MWI;2MWEE;2MWE;2SEBATBEIT BWA;2BWI;2BWEE;2BWE;2SEBATBEIT FWA;2FWI
2FWEE;2FWE;2SEBATBEIT PWA;2PWI;2PWEE;2PWE;1TONAL MARK YIZET;3DERET;3RIKRIK;3SHORT RIKRIK;3DIFAT
3KENAT;3CHIRET;3HIDET;3DERET-HIDET;3KURT;13A0=0CHEROKEE p A;2E;2I;2O;2U;2V;2GA;2KA;2GE;2GI;2GO;2GU
2GV;2HA;2HE;2HI;2HO;2HU;2HV;2LA;2LE;2LI;2LO;2LU;2LV;2MA;2ME;2MI;2MO;2MU;2NA;2HNA;2NAH;2NE;2NI;2NO
2NU;2NV;2QUA;2QUE;2QUI;2QUO;2QUU;2QUV;2SA;2S;2SE;2SI;2SO;2SU;2SV;2DA;2TA;2DE;2TE;2DI;2TI;2DO;2DU
2DV;2DLA;2TLA;2TLE;2TLI;2TLO;2TLU;2TLV;2TSA;2TSE;2TSI;2TSO;2TSU;2TSV;2WA;2WE;2WI;2WO;2WU;2WV;2YA
2YE;2YI;2YO;2YU;2YV;2MV;13F8=1t p YE;3YI;3YO;3YU;3YV;3MV;1400=0CANADIAN SYLLABICS HYPHEN;2E;2AAI;2I
2II;2O;2OO;2Y-CREE OO;2CARRIER EE;3I;2A;2AA;2WE;2WEST-CREE WE;2WI;2WEST-CREE WI;2WII;2WEST-CREE WII
2WO;2WEST-CREE WO;2WOO;2WEST-CREE WOO;2NASKAPI WOO;2WA;2WEST-CREE WA;2WAA;2WEST-CREE WAA
2NASKAPI WAA;2AI;2Y-CREE W;2GLOTTAL STOP;2j ACUTE;3GRAVE;3BOTTOM HALF RING;3TOP HALF RING
3q HALF RING;3RING;3i ACUTE;4SHORT y uS;3MIDDLE DOT;3SHORT l u;3PLUS;3DOWN TACK;2EN;2IN;2ON;2AN;2PE
2PAAI;2PI;2PII;2PO;2POO;2Y-CREE POO;2CARRIER HEE;3HI;2PA;2PAA;2PWE;2WEST-CREE PWE;2PWI
2WEST-CREE PWI;2PWII;2WEST-CREE PWII;2PWO;2WEST-CREE PWO;2PWOO;2WEST-CREE PWOO;2PWA;2WEST-CREE PWA
2PWAA;2WEST-CREE PWAA;2Y-CREE PWAA;2P;2WEST-CREE P;2CARRIER H;2TE;2TAAI;2TI;2TII;2TO;2TOO
2Y-CREE TOO;2CARRIER DEE;3DI;2TA;2TAA;2TWE;2WEST-CREE TWE;2TWI;2WEST-CREE TWI;2TWII;2WEST-CREE TWII
2TWO;2WEST-CREE TWO;2TWOO;2WEST-CREE TWOO;2TWA;2WEST-CREE TWA;2TWAA;2WEST-CREE TWAA;2NASKAPI TWAA
2T;2TTE;2TTI;2TTO;2TTA;2KE;2KAAI;2KI;2KII;2KO;2KOO;2Y-CREE KOO;2KA;2KAA;2KWE;2WEST-CREE KWE;2KWI
2WEST-CREE KWI;2KWII;2WEST-CREE KWII;2KWO;2WEST-CREE KWO;2KWOO;2WEST-CREE KWOO;2KWA;2WEST-CREE KWA
2KWAA;2WEST-CREE KWAA;2NASKAPI KWAA;2K;2KW;2SOUTH-SLAVEY KEH;3KIH;3KOH;3KAH;2CE;2CAAI;2CI;2CII;2CO
2COO;2Y-CREE COO;2CA;2CAA;2CWE;2WEST-CREE CWE;2CWI;2WEST-CREE CWI;2CWII;2WEST-CREE CWII;2CWO
2WEST-CREE CWO;2CWOO;2WEST-CREE CWOO;2CWA;2WEST-CREE CWA;2CWAA;2WEST-CREE CWAA;2NASKAPI CWAA;2C
2SAYISI TH;2ME;2MAAI;2MI;2MII;2MO;2MOO;2Y-CREE MOO;2MA;2MAA;2MWE;2WEST-CREE MWE;2MWI;2WEST-CREE MWI
2MWII;2WEST-CREE MWII;2MWO;2WEST-CREE MWO;2MWOO;2WEST-CREE MWOO;2MWA;2WEST-CREE MWA;2MWAA
2WEST-CREE MWAA;2NASKAPI MWAA;2M;2WEST-CREE M;2MH;2ATHAPASCAN M;2SAYISI M;2NE;2NAAI;2NI;2NII;2NO
2NOO;2Y-CREE NOO;2NA;2NAA;2NWE;2WEST-CREE NWE;2NWA;2WEST-CREE NWA;2NWAA;2WEST-CREE NWAA
2NASKAPI NWAA;2N;2CARRIER NG;2NH;2LE;2LAAI;2LI;2LII;2LO;2LOO;2Y-CREE LOO;2LA;2LAA;2LWE
2WEST-CREE LWE;2LWI;2WEST-CREE LWI;2LWII;2WEST-CREE LWII;2LWO;2WEST-CREE LWO;2LWOO;2WEST-CREE LWOO
2LWA;2WEST-CREE LWA;2LWAA;2WEST-CREE LWAA;2L;2WEST-CREE L;2MEDIAL L;2SE;2SAAI;2SI;2SII;2SO;2SOO
2Y-CREE SOO;2SA;2SAA;2SWE;2WEST-CREE SWE;2SWI;2WEST-CREE SWI;2SWII;2WEST-CREE SWII;2SWO
2WEST-CREE SWO;2SWOO;2WEST-CREE SWOO;2SWA;2WEST-CREE SWA;2SWAA;2WEST-CREE SWAA;2NASKAPI SWAA;2S
2ATHAPASCAN S;2SW;2dFOOT S;2MOOSE-CREE SK;2NASKAPI SKW;3S-W;3SPWA;3STWA;3SKWA;3SCWA;2SHE;2SHI;2SHII
2SHO;2SHOO;2SHA;2SHAA;2SHWE;2WEST-CREE SHWE;2SHWI;2WEST-CREE SHWI;2SHWII;2WEST-CREE SHWII;2SHWO
2WEST-CREE SHWO;2SHWOO;2WEST-CREE SHWOO;2SHWA;2WEST-CREE SHWA;2SHWAA;2WEST-CREE SHWAA;2SH;2YE;2YAAI
2YI;2YII;2YO;2YOO;2Y-CREE YOO;2YA;2YAA;2YWE;2WEST-CREE YWE;2YWI;2WEST-CREE YWI;2YWII
2WEST-CREE YWII;2YWO;2WEST-CREE YWO;2YWOO;2WEST-CREE YWOO;2YWA;2WEST-CREE YWA;2YWAA;2WEST-CREE YWAA
2NASKAPI YWAA;2Y;2BIBLE-CREE Y;2WEST-CREE Y;2SAYISI YI;2RE;2R-CREE RE;2WEST-CREE LE;2RAAI;2RI;2RII
2RO;2ROO;2WEST-CREE LO;2RA;2RAA;2WEST-CREE LA;2RWAA;2WEST-CREE RWAA;2R;2WEST-CREE R;2MEDIAL R;2FE
2FAAI;2FI;2FII;2FO;2FOO;2FA;2FAA;2FWAA;2WEST-CREE FWAA;2F;2THE;2N-CREE THE;2THI;2N-CREE THI;2THII
2N-CREE THII;2THO;2THOO;2THA;2THAA;2THWAA;2WEST-CREE THWAA;2TH;2TTHE;2TTHI;2TTHO;2TTHA;2TTH;2TYE
2TYI;2TYO;2TYA;2NUNAVIK HE;3HI;3HII;3HO;3HOO;3HA;3HAA;3H;2NUNAVUT H;2HK;2QAAI;2QI;2QII;2QO;2QOO;2QA
2QAA;2Q;2TLHE;2TLHI;2TLHO;2TLHA;2WEST-CREE RE;3RI;3RO;3RA;2NGAAI;2NGI;2NGII;2NGO;2NGOO;2NGA;2NGAA
2NG;2NNG;2SAYISI SHE;3SHI;3SHO;3SHA;2WOODS-CREE THE;3THI;3THO;3THA;3TH;2LHI;2LHII;2LHO;2LHOO;2LHA
2LHAA;2LH;2TH-CREE THE;3THI;3THII;3THO;3THOO;3THA;3THAA;3TH;2AIVILIK B;2dFOOT E;3I;3O;3A;3WE;3WI
3WO;3WA;3NE;3NI;3NO;3NA;3KE;3KI;3KO;3KA;2SAYISI HE;3HI;3HO;3HA;2CARRIER GHU;3GHO;3GHE;3GHEE;3GHI
3GHA;3RU;3RO;3RE;3REE;3RI;3RA;3WU;3WO;3WE;3WEE;3WI;3WA;3HWU;3HWO;3HWE;3HWEE;3HWI;3HWA;3THU;3THO
3THE;3THEE;3THI;3THA;3TTU;3TTO;3TTE;3TTEE;3TTI;3TTA;3PU;3PO;3PE;3PEE;3PI;3PA;3P;3GU;3GO;3GE;3GEE
3GI;3GA;3KHU;3KHO;3KHE;3KHEE;3KHI;3KHA;3KKU;3KKO;3KKE;3KKEE;3KKI;3KKA;3KK;3NU;3NO;3NE;3NEE;3NI;3NA
3MU;3MO;3ME;3MEE;3MI;3MA;3YU;3YO;3YE;3YEE;3YI;3YA;3JU;2SAYISI JU;2CARRIER JO;3JE;3JEE;3JI
2SAYISI JI;2CARRIER JA;3JJU;3JJO;3JJE;3JJEE;3JJI;3JJA;3LU;3LO;3LE;3LEE;3LI;3LA;3DLU;3DLO;3DLE;3DLEE
3DLI;3DLA;3LHU;3LHO;3LHE;3LHEE;3LHI;3LHA;3TLHU;3TLHO;3TLHE;3TLHEE;3TLHI;3TLHA;3TLU;3TLO;3TLE;3TLEE
3TLI;3TLA;3ZU;3ZO;3ZE;3ZEE;3ZI;3ZA;3Z;3m Z;3DZU;3DZO;3DZE;3DZEE;3DZI;3DZA;3SU;3SO;3SE;3SEE;3SI;3SA
3SHU;3SHO;3SHE;3SHEE;3SHI;3SHA;3SH;3TSU;3TSO;3TSE;3TSEE;3TSI;3TSA;3CHU;3CHO;3CHE;3CHEE;3CHI;3CHA
3TTSU;3TTSO;3TTSE;3TTSEE;3TTSI;3TTSA;2CHI s;2FULL STOP;2QAI;2NGAI;2NNGI;2NNGII;2NNGO;2NNGOO;2NNGA
2NNGAA;2WOODS-CREE THWEE;3THWI;3THWII;3THWO;3THWOO;3THWA;3THWAA;3j TH;2dFOOT W;0OGHAM SPACE MARK
1p BEITH;2LUIS;2FEARN;2SAIL;2NION;2UATH;2DAIR;2TINNE;2COLL;2CEIRT;2MUIN;2GORT;2NGEADAL;2STRAIF
2RUIS;2AILM;2ONN;2UR;2EADHADH;2IODHADH;2EABHADH;2OR;2UILLEANN;2IFIN;2EAMHANCHOLL;2PEITH
1FEATHER MARK;1REVERSED FEATHER MARK;16A0=0RUNIC p FEHU FEOH FE F;2V;2URUZ UR U;2YR;2Y;2W
2THURISAZ THURS THORN;2ETH;2ANSUZ A;2OS O;2AC A;2AESC;2LONG-BRANCH-OSS O;2SHORT-TWIG-OSS O;2O;2OE
2ON;2RAIDO RAD REID R;2KAUNA;2CEN;2KAUN K;2G;2ENG;2GEBO GYFU G;2GAR;2WUNJO WYNN W;2HAGLAZ H
2HAEGL H;2LONG-BRANCH-HAGALL H;2SHORT-TWIG-HAGALL H;2NAUDIZ NYD NAUD N;2SHORT-TWIG-NAUD N;2DOTTED-N
2ISAZ IS ISS I;2E;2JERAN J;2GER;2LONG-BRANCH-AR AE;2SHORT-TWIG-AR A;2IWAZ EOH;2PERTHO PEORTH P
2ALGIZ EOLHX;2SOWILO S;2SIGEL LONG-BRANCH-SOL S;2SHORT-TWIG-SOL S;2C;2Z;2TIWAZ TIR TYR T
2SHORT-TWIG-TYR T;2D;2BERKANAN BEORC BJARKAN B;2SHORT-TWIG-BJARKAN B;2DOTTED-P;2OPEN-P;2EHWAZ EH E
2MANNAZ MAN M;2LONG-BRANCH-MADR M;2SHORT-TWIG-MADR M;2LAUKAZ LAGU LOGR L;2DOTTED-L;2INGWAZ;2ING
2DAGAZ DAEG D;2OTHALAN ETHEL O;2EAR;2IOR;2CWEORTH;2CALC;2CEALC;2STAN;2LONG-BRANCH-YR;2SHORT-TWIG-YR
2ICELANDIC-YR;2Q;2X;1SINGLE PUNCTUATION;1MULTIPLE PUNCTUATION;1CROSS PUNCTUATION;1ARLAUG v
1TVIMADUR v;1BELGTHOR v;1p K;2SH;2OO;2FRANKS CASKET OS;4IS;4EH;4AC;4AESC;1700=0TAGALOG p A;2I;2U
2KA;2GA;2NGA;2TA;2DA;2NA;2PA;2BA;2MA;2YA;2RA;2LA;2WA;2SA;2HA;1VOWEL s I;3U;1s VIRAMA;2PAMUDPOD
171F=1p ARCHAIC RA;0HANUNOO p A;2I;2U;2KA;2GA;2NGA;2TA;2DA;2NA;2PA;2BA;2MA;2YA;2RA;2LA;2WA;2SA;2HA
1VOWEL s I;3U;1s PAMUDPOD;0PHILIPPINE SINGLE PUNCTUATION;1i PUNCTUATION;1740=0BUHID p A;2I;2U;2KA
2GA;2NGA;2TA;2DA;2NA;2PA;2BA;2MA;2YA;2RA;2LA;2WA;2SA;2HA;1VOWEL s I;3U;1760=0TAGBANWA p A;2I;2U;2KA
2GA;2NGA;2TA;2DA;2NA;2PA;2BA;2MA;2YA;176E=2LA;2WA;2SA;1772=1VOWEL s I;3U;1780=0KHMER p KA;2KHA;2KO
2KHO;2NGO;2CA;2CHA;2CO;2CHO;2NYO;2DA;2TTHA;2DO;2TTHO;2NNO;2TA;2THA;2TO;2THO;2NO;2BA;2PHA;2PO;2PHO
2MO;2YO;2RO;2LO;2VO;2SHA;2SSO;2SA;2HA;2LA;2QA;1INDEPENDENT VOWEL QAQ;3QAA;3QI;3QII;3QU;3QUK;3QUU
3QUUV;3RY;3RYY;3LY;3LYY;3QE;3QAI;3QOO TYPE ONE;5TWO;3QAU;1VOWEL INHERENT AQ;3AA;2s AA;3I;3II;3Y;3YY
3U;3UU;3UA;3OE;3YA;3IE;3E;3AE;3AI;3OO;3AU;1s NIKAHIT;2REAHMUK;2YUUKALEAPINTU;2MUUSIKATOAN;2TRIISAP
2BANTOC;2ROBAT;2TOANDAKHIAT;2KAKABAT;2AHSDA;2SAMYOK SANNYA;2VIRIAM;2COENG;2BATHAMASAT;2KHAN
2BARIYOOSAN;2CAMNUC PII KUUH;2LEK TOO;2BEYYAL;2PHNAEK MUAN;2KOOMUUT;1CURRENCY v RIEL
1s AVAKRAHASANYA;2ATTHACAN;17E0=1DIGIT ZERO;2ONE;2TWO;2w;2FOUR;2FIVE;2SIX;2SEVEN;2EIGHT;2NINE
17F0=1v LEK ATTAK SON;4MUOY;4PII;4BEI;4BUON;4PRAM;4PRAM-MUOY;4PRAM-PII;4PRAM-BEI;4PRAM-BUON
1800=0MONGOLIAN BIRGA;1ELLIPSIS;1COMMA;1FULL STOP;1COLON;1FOUR h;1TODO SOFT HYPHEN
1SIBE SYLLABLE BOUNDARY MARKER;1MANCHU COMMA;2FULL STOP;1NIRUGU;1FREE VARIATION r ONE;4TWO;4w
1VOWEL SEPARATOR;1FREE VARIATION r FOUR;1DIGIT ZERO;2ONE;2TWO;2w;2FOUR;2FIVE;2SIX;2SEVEN;2EIGHT
2NINE;1820=1p A;2E;2I;2O;2U;2OE;2UE;2EE;2NA;2ANG;2BA;2PA;2QA;2GA;2MA;2LA;2SA;2SHA;2TA;2DA;2CHA;2JA
2YA;2RA;2WA;2FA;2KA;2KHA;2TSA;2ZA;2HAA;2ZRA;2LHA;2ZHI;2CHI;2TODO LONG VOWEL s;3E;3I;3O;3U;3OE;3UE
3ANG;3BA;3PA;3QA;3GA;3MA;3TA;3DA;3CHA;3JA;3TSA;3YA;3WA;3KA;3GAA;3HAA;3JIA;3NIA;3DZA;2SIBE E;3I;3IY
3UE;3U;3ANG;3KA;3GA;3HA;3PA;3SHA;3TA;3DA;3JA;3FA;3GAA;3HAA;3TSA;3ZA;3RAA;3CHA;3ZHA;2MANCHU I;3KA
3RA;3FA;3ZHA;2CHA z TWO h;1880=2ALI GALI ANUSVARA ONE;4VISARGA ONE;4DAMARU;4UBADAMA
4INVERTED UBADAMA;4BALUDA;4w BALUDA;4A;4I;4KA;4NGA;4CA;4TTA;4TTHA;4DDA;4NNA;4TA;4DA;4PA;4PHA;4SSA
4ZHA;4ZA;4AH;2TODO ALI GALI TA;5ZHA;2MANCHU ALI GALI GHA;5NGA;5CA;5JHA;5TTA;5DDHA;5TA;5DHA;5SSA
5CYA;5ZHA;5ZA;2ALI GALI HALF U;5YA;2MANCHU ALI GALI BHA;2ALI GALI DAGALGA;2MANCHU ALI GALI LHA
18B0=0CANADIAN SYLLABICS OY;2AY;2AAY;2WAY;2POY;2PAY;2PWOY;2TAY;2KAY;2KWAY;2MAY;2NOY;2NAY;2LAY;2SOY
2SAY;2SHOY;2SHAY;2SHWOY;2YOY;2YAY;2RAY;2NWI;2OJIBWAY NWI;2NWII;2OJIBWAY NWII;2NWO;2OJIBWAY NWO
2NWOO;2OJIBWAY NWOO;2RWEE;2RWI;2RWII;2RWO;2RWOO;2RWA;2OJIBWAY P;3T;3K;3C;3M;3N;3S;3SH;2EASTERN W
2WESTERN W;2j t RING;3RAISED DOT;2R-CREE RWE;2WEST-CREE LOO;3LAA;2THWE;2THWA;2TTHWE;2TTHOO;2TTHAA
2TLHWE;2TLHOO;2SAYISI SHWE;3SHOO;3HOO;2CARRIER GWU;3DENE GEE;3GAA;3GWA;2SAYISI JUU;2CARRIER JWA
2BEAVER DENE L;4R;2CARRIER DENTAL S;1900=0LIMBU VOWEL-CARRIER p;1p KA;2KHA;2GA;2GHA;2NGA;2CA;2CHA
2JA;2JHA;2YAN;2TA;2THA;2DA;2DHA;2NA;2PA;2PHA;2BA;2BHA;2MA;2YA;2RA;2LA;2WA;2SHA;2SSA;2SA;2HA;2GYAN
2TRA;1920=1VOWEL s A;3I;3U;3EE;3AI;3OO;3AU;3E;3O;1SUBJOINED p YA;3RA;3WA;1930=1t p KA;3NGA
3ANUSVARA;3TA;3NA;3PA;3MA;3RA;3LA;1s MUKPHRENG;2KEMPHRENG;2SA-I;1940=2LOO;1944=1EXCLAMATION MARK
1QUESTION MARK;1DIGIT ZERO;2ONE;2TWO;2w;2FOUR;2FIVE;2SIX;2SEVEN;2EIGHT;2NINE;0TAI LE p KA;3XA;3NGA
3TSA;3SA;3YA;3TA;3THA;3LA;3PA;3PHA;3MA;3FA;3VA;3HA;3QA;3KHA;3TSHA;3NA;3A;3I;3EE;3EH;3U;3OO;3O;3UE
3E;3AUE;3AI;1970=3TONE-2;3TONE-3;3TONE-4;3TONE-5;3TONE-6;1980=0NEW TAI LUE p HIGH QA;4LOW QA
4HIGH KA;5XA;5NGA;4LOW KA;5XA;5NGA;4HIGH TSA;5SA;5YA;4LOW TSA;5SA;5YA;4HIGH TA;5THA;5NA;4LOW TA
5THA;5NA;4HIGH PA;5PHA;5MA;4LOW PA;5PHA;5MA;4HIGH FA;5VA;5LA;4LOW FA;5VA;5LA;4HIGH HA;5DA;5BA
4LOW HA;5DA;5BA;4HIGH KVA;5XVA;4LOW KVA;5XVA;4HIGH SUA;4LOW SUA;19B0=3VOWEL s VOWEL SHORTENER;5AA
5II;5U;5UU;5E;5AE;5O;5OA;5UE;5AY;5AAY;5UY;5OY;5OAY;5UEY;5IY;3p j V;5NG;5N;5M;5K;5D;5B;3TONE MARK-1
4MARK-2;19D0=3DIGIT ZERO;4ONE;4TWO;4w;4FOUR;4FIVE;4SIX;4SEVEN;4EIGHT;4NINE;3THAM DIGIT ONE
19DE=3s LAE;4LAEV;0KHMER v PATHAMASAT;2MUOY KOET;2PII KOET;2BEI KOET;2BUON KOET;2PRAM KOET
2PRAM-MUOY KOET;2PRAM-PII KOET;2PRAM-BEI KOET;2PRAM-BUON KOET;2DAP KOET;2DAP-MUOY KOET
2DAP-PII KOET;2DAP-BEI KOET;2DAP-BUON KOET;2DAP-PRAM KOET;2TUTEYASAT;2MUOY ROC;2PII ROC;2BEI ROC
2BUON ROC;2PRAM ROC;2PRAM-MUOY ROC;2PRAM-PII ROC;2PRAM-BEI ROC;2PRAM-BUON ROC;2DAP ROC
2DAP-MUOY ROC;2DAP-PII ROC;2DAP-BEI ROC;2DAP-BUON ROC;2DAP-PRAM ROC;0BUGINESE p KA;2GA;2NGA;2NGKA
2PA;2BA;2MA;2MPA;2TA;2DA;2NA;2NRA;2CA;2JA;2NYA;2NYCA;2YA;2RA;2LA;2VA;2SA;2A;2HA;1VOWEL s I;3U;3E;3O
3AE;1A1E=1PALLAWA;1END OF SECTION;0TAI THAM p HIGH KA;4KHA;4KXA;3LOW KA;4KXA;4KHA;3NGA;3HIGH CA
4CHA;3LOW CA;4SA;4CHA;3NYA;3RATA;3HIGH RATHA;3DA;3LOW RATHA;3RANA;3HIGH TA;4THA;3LOW TA;4THA;3NA
3BA;3HIGH PA;4PHA;4FA;3LOW PA;4FA;4PHA;3MA;3LOW YA;3HIGH YA;3RA;3RUE;3LA;3LUE;3WA;3HIGH SHA;4SSA
4SA;4HA;3LLA;3A;3LOW HA;3I;3II;3U;3UU;3EE;3OO;3LAE;3GREAT SA;2CONSONANT s MEDIAL RA;5LA
4LA TANG LAI;2s MAI KANG LAI;2CONSONANT s j NGA;4LOW PA;4HIGH RATHA OR LOW PA;4MA;4BA;4SA
1A60=2s SAKOT;2VOWEL s A;4MAI SAT;4AA;4TALL AA;4I;4II;4UE;4UUE;4U;4UU;4O;4OA c;4OY;4E;4AE;4OO;4AI
4THAM AI;4OA a;2s MAI KANG;3TONE-1;3TONE-2;3KHUEN TONE-3;4TONE-4;4TONE-5;3RA HAAM;3MAI SAM
3KHUEN-LUE KARAN;1A7F=2COMBINING CRYPTOGRAMMIC DOT;2HORA DIGIT ZERO;4ONE;4TWO;4w;4FOUR;4FIVE;4SIX
4SEVEN;4EIGHT;4NINE;1A90=2THAM DIGIT ZERO;4ONE;4TWO;4w;4FOUR;4FIVE;4SIX;4SEVEN;4EIGHT;4NINE
1AA0=2s WIANG;3WIANGWAAK;3SAWAN;3KEOW;3HOY;3DOKMAI;3REVERSED ROTATED RANA;3MAI YAMOK;3KAAN;3KAANKUU
3SATKAAN;3SATKAANKUU;3HANG;3CAANG;1AB0=0COMBINING iD CIRCUMFLEX ACCENT;1DIAERESIS-RING;1INFINITY
1DOWNWARDS b;1TRIPLE DOT;1X-X c;1WIGGLY LINE c;1OPEN MARK c;1i OPEN MARK c
1LIGHT CENTRALIZATION u c;1STRONG CENTRALIZATION u c;1PARENTHESES a;1i PARENTHESES a;1PARENTHESES c
2OVERLAY;1LATIN t p W c;4TURNED W c;1o PARENTHESIS a o;1q PARENTHESIS a q;1o PARENTHESIS c o
1q PARENTHESIS c q;1SQUARE BRACKETS a;1NUMBER s a;1INVERTED i ARCH a;1PLUS s a;1i PLUS s a;4c
1TRIPLE ACUTE ACCENT;1LATIN t p INSULAR G;5R;5T;1B00=0BALINESE s ULU RICEM;3CANDRA;2CECEK;2SURANG
2BISAH;1p AKARA;3TEDUNG;2IKARA;3TEDUNG;2UKARA;3TEDUNG;2RA REPA;4TEDUNG;2LA LENGA;4TEDUNG;2EKARA
2AIKARA;2OKARA;3TEDUNG;2KA;3MAHAPRANA;2GA;3GORA;2NGA;2CA;3LACA;2JA;3JERA;2NYA;2TA LATIK
3MURDA MAHAPRANA;2DA MURDA ALPAPRANA;4MAHAPRANA;2NA RAMBAT;2TA;3TAWA;2DA;3MADU;2NA;2PA;3KAPAL;2BA
3KEMBANG;2MA;2YA;2RA;2LA;2WA;2SA SAGA;3SAPA;2SA;2HA;1s REREKAN;1VOWEL s TEDUNG;3ULU;4SARI;3SUKU
4ILUT;3RA REPA;5TEDUNG;3LA LENGA;5TEDUNG;3TALING;4REPA;4TEDUNG;4REPA TEDUNG;3PEPET;4TEDUNG
1ADEG ADEG;1p KAF SASAK;2KHOT SASAK;2TZIR SASAK;2EF SASAK;2VE SASAK;2ZAL SASAK;2ASYURA SASAK
2ARCHAIC JNYA;1B50=1DIGIT ZERO;2ONE;2TWO;2w;2FOUR;2FIVE;2SIX;2SEVEN;2EIGHT;2NINE;1PANTI;1PAMADA
1WINDU;1CARIK PAMUNGKAH;2SIKI;2PAREREN;1PAMENENG;1MUSICAL v DONG;3DENG;3DUNG;3DANG;4SURANG;3DING
3DAENG;3DEUNG;3DAING;3DANG GEDE;3COMBINING TEGEH;4ENDEP;4KEMPUL;4KEMPLI;4JEGOGAN;4KEMPUL z JEGOGAN
4KEMPLI z JEGOGAN;4BENDE;4GONG;3q-HAND OPEN DUG;5DAG;4CLOSED TUK;5TAK;3o-HAND OPEN PANG;5PUNG
4CLOSED PLAK;5PLUK;4OPEN PING;1PANTI LANTANG;1PAMADA LANTANG;1B80=0SUNDANESE s PANYECEK;2PANGLAYAR
2PANGWISAD;1p A;2I;2U;2AE;2O;2E;2EU;2KA;2QA;2GA;2NGA;2CA;2JA;2ZA;2NYA;2TA;2DA;2NA;2PA;2FA;2VA;2BA
2MA;2YA;2RA;2LA;2WA;2SA;2XA;2HA;1CONSONANT s PAMINGKAL;3PANYAKRA;3PANYIKU;1VOWEL s PANGHULU
3PANYUKU;3PANAELAENG;3PANOLONG;3PAMEPET;3PANEULEUNG;1s PAMAAEH;2VIRAMA;1CONSONANT s PASANGAN MA;4WA
1p KHA;2SYA;1DIGIT ZERO;2ONE;2TWO;2w;2FOUR;2FIVE;2SIX;2SEVEN;2EIGHT;2NINE;1AVAGRAHA;1p REU;2LEU
2BHA;2j K;3M;0BATAK p A;2SIMALUNGUN A;2HA;2SIMALUNGUN HA;2MANDAILING HA;2BA;2KARO BA;2PA
2SIMALUNGUN PA;2NA;2MANDAILING NA;2WA;2SIMALUNGUN WA;2PAKPAK WA;2GA;2SIMALUNGUN GA;2JA;2DA;2RA
2SIMALUNGUN RA;2MA;2SIMALUNGUN MA;2SOUTHERN TA;2NORTHERN TA;2SA;2SIMALUNGUN SA;2MANDAILING SA;2YA
2SIMALUNGUN YA;2NGA;2LA;2SIMALUNGUN LA;2NYA;2CA;2NDA;2MBA;2I;2U;1s TOMPI;1VOWEL s E;3PAKPAK E;3EE
3I;3KARO I;3O;3KARO O;3U;4FOR SIMALUNGUN SA;1CONSONANT s NG;3H;1PANGOLAT;1PANONGONAN
1BFC=1v BINDU NA METEK;3PINARBORAS;3JUDUL;3PANGOLAT;0LEPCHA p KA;2KLA;2KHA;2GA;2GLA;2NGA;2CA;2CHA
2JA;2NYA;2TA;2THA;2DA;2NA;2PA;2PLA;2PHA;2FA;2FLA;2BA;2BLA;2MA;2MLA;2TSA;2TSHA;2DZA;2YA;2RA;2LA;2HA
2HLA;2VA;2SA;2SHA;2WA;2A;1SUBJOINED p YA;3RA;1VOWEL s AA;3I;3O;3OO;3U;3UU;3E;1CONSONANT s K;3M;3L
3N;3P;3R;3T;3NYIN-DO;3KANG;1s RAN;2NUKTA;1C3B=1PUNCTUATION TA-ROL;2NYET THYOOM TA-ROL;2CER-WA
2TSHOOK CER-WA;2TSHOOK;1DIGIT ZERO;2ONE;2TWO;2w;2FOUR;2FIVE;2SIX;2SEVEN;2EIGHT;2NINE;1C4D=1p TTA
2TTHA;2DDA;0OL CHIKI DIGIT ZERO;3ONE;3TWO;3w;3FOUR;3FIVE;3SIX;3SEVEN;3EIGHT;3NINE;2p LA;3AT;3AG
3ANG;3AL;3LAA;3AAK;3AAJ;3AAM;3AAW;3LI;3IS;3IH;3INY;3IR;3LU;3UC;3UD;3UNN;3UY;3LE;3EP;3EDD;3EN;3ERR
3LO;3OTT;3OB;3OV;3OH;2MU TTUDDAG;2GAAHLAA TTUDDAAG;2MU-GAAHLAA TTUDDAAG;2RELAA;2PHAARKAA;2AHAD
2PUNCTUATION MUCAAD;3i MUCAAD;0CYRILLIC t p ROUNDED VE;3LONG-LEGGED DE;3Nb O;3WIDE ES;3TALL TE
3w-LEGGED TE;3TALL HARD s;4YAT;3UNBLENDED UK;1C90=0GEORGIAN MTAVRULI e p AN;4BAN;4GAN;4DON;4EN;4VIN
4ZEN;4TAN;4IN;4KAN;4LAS;4MAN;4NAR;4ON;4PAR;4ZHAR;4RAE;4SAN;4TAR;4UN;4PHAR;4KHAR;4GHAN;4QAR;4SHIN
4CHIN;4CAN;4JIL;4CIL;4CHAR;4XAN;4JHAN;4HAE;4HE;4HIE;4WE;4HAR;4HOE;4FI;4YN;4ELIFI;4TURNED GAN;4AIN
1CBD=4AEN;4HARD s;4LABIAL s;0SUNDANESE PUNCTUATION BINDU SURYA;3PANGLONG;3PURNAMA;3CAKRA
3LEU SATANGA;3KA SATANGA;3DA SATANGA;3BA SATANGA;1CD0=0VEDIC TONE KARSHANA;2SHARA;2PRENKHA
1s NIHSHVASA;2YAJURVEDIC MIDLINE SVARITA;1TONE YAJURVEDIC AGGRAVATED INDEPENDENT SVARITA
3INDEPENDENT SVARITA;3KATHAKA INDEPENDENT SVARITA;2CANDRA c
2YAJURVEDIC KATHAKA INDEPENDENT SVARITA SCHROEDER;2i SVARITA;2TRIPLE SVARITA;2KATHAKA ANUDATTA
2DOT c;2TWO h c;2w h c;2RIGVEDIC KASHMIRI INDEPENDENT SVARITA;2ATHARVAVEDIC INDEPENDENT SVARITA
1s VISARGA SVARITA;3UDATTA;2REVERSED VISARGA UDATTA;2VISARGA ANUDATTA;2REVERSED VISARGA ANUDATTA
2VISARGA UDATTA z TAIL;3ANUDATTA z TAIL;2ANUSVARA ANTARGOMUKHA;3BAHIRGOMUKHA;3VAMAGOMUKHA;4z TAIL
2TIRYAK;2HEXIk LONG ANUSVARA;2LONG ANUSVARA;2RTHANG LONG ANUSVARA;2ANUSVARA UBHAYATO MUKHA
2ARDHAVISARGA;2ROTATED ARDHAVISARGA;1TONE CANDRA a;1s JIHVAMULIYA;2UPADHMANIYA;2ATIKRAMA
1TONE RING a;2i RING a;1s i ANUSVARA ANTARGOMUKHA;1D00=0LATIN p t e A;4AE;1t p TURNED AE
1p t e BARRED B;4C;4D;4ETH;4E;1t p TURNED OPEN E;4I;1p t e J;4K;4L z u;4M;4REVERSED N;4O;4OPEN O
1t p SIDEWAYS O;4OPEN O;4O z u;3TURNED OE;1p t e OU;1t p TOP HALF O;3BOTTOM HALF O;1p t e P
4REVERSED R;4TURNED R;4T;4U;1t p SIDEWAYS U;4DIAERESIZED U;4TURNED M;1p t e V;4W;4Z;4EZH
2VOICED LARYNGEAL SPIRANT;2AIN;0GREEK p t e GAMMA;4LAMDA;4PI;4RHO;4PSI;0CYRILLIC p t e EL
0MODIFIER p e A;3AE;3B;3BARRED B;3D;3E;3REVERSED E;3G;3H;3I;3J;3K;3L;3M;3N;3REVERSED N;3O;3OU;3P;3R
3T;3U;3W;2t A;3TURNED A;3ALPHA;3TURNED AE;3B;3D;3E;3SCHWA;3OPEN E;3TURNED OPEN E;3G;3TURNED I;3K;3M
3ENG;3O;3OPEN O;3TOP HALF O;3BOTTOM HALF O;3P;3T;3U;3SIDEWAYS U;3TURNED M;3V;3AIN;3BETA
3GREEK GAMMA;3DELTA;3GREEK PHI;3CHI;0LATIN SUBSCRIPT t p I;4R;4U;4V;0GREEK SUBSCRIPT t p BETA
4GAMMA;4RHO;4PHI;4CHI;0LATIN t p UE;3B z MIDDLE TILDE;3D z MIDDLE TILDE;3F z MIDDLE TILDE
3M z MIDDLE TILDE;3N z MIDDLE TILDE;3P z MIDDLE TILDE;3R z MIDDLE TILDE;5FISHHOOK AND MIDDLE TILDE
3S z MIDDLE TILDE;3T z MIDDLE TILDE;3Z z MIDDLE TILDE;3TURNED G;0MODIFIER p CYRILLIC EN
0LATIN t p INSULAR G;3TH z STRIKETHROUGH;2e p I z u;2p IOTA z u;3P z u;2e p U z u;2p UPSILON z u
3B z PALATAL HOOK;3D z PALATAL HOOK;3F z PALATAL HOOK;3G z PALATAL HOOK;3K z PALATAL HOOK
3L z PALATAL HOOK;3M z PALATAL HOOK;3N z PALATAL HOOK;3P z PALATAL HOOK;3R z PALATAL HOOK
3S z PALATAL HOOK;3ESH z PALATAL HOOK;3V z PALATAL HOOK;3X z PALATAL HOOK;3Z z PALATAL HOOK
3A z RETROFLEX HOOK;3ALPHA z RETROFLEX HOOK;3D z HOOK AND TAIL;3E z RETROFLEX HOOK
3OPEN E z RETROFLEX HOOK;3REVERSED OPEN E z RETROFLEX HOOK;3SCHWA z RETROFLEX HOOK
3I z RETROFLEX HOOK;3OPEN O z RETROFLEX HOOK;3ESH z RETROFLEX HOOK;3U z RETROFLEX HOOK
3EZH z RETROFLEX HOOK;0MODIFIER p t TURNED ALPHA;3C;4z CURL;3ETH;3REVERSED OPEN E;3F;3DOTLESS J z u
3SCRIPT G;3TURNED H;3I z u;3IOTA;3e I;5z u;3J z CROSSED-TAIL;3L z RETROFLEX HOOK;5PALATAL HOOK;3e L
3M z HOOK;3TURNED M z LONG LEG;3N z o HOOK;5RETROFLEX HOOK;3e N;3BARRED O;3PHI;3S z HOOK;3ESH
3T z PALATAL HOOK;3U BAR;3UPSILON;3e U;3V z HOOK;3TURNED V;3Z;4z RETROFLEX HOOK;5CURL;3EZH;3THETA
0COMBINING DOTTED GRAVE ACCENT;2ACUTE ACCENT;1SNAKE c;1SUSPENSION MARK;1MACRON-ACUTE;1GRAVE-MACRON
1MACRON-GRAVE;1ACUTE-MACRON;1GRAVE-ACUTE-GRAVE;1ACUTE-GRAVE-ACUTE;1LATIN t p R c;1BREVE-MACRON
1MACRON-BREVE;1i CIRCUMFLEX a;1OGONEK a;1ZIGZAG c;1IS c;1UR a;1US a;1LATIN t p FLATTENED OPEN A a
4AE;4AO;4AV;4C CEDILLA;4INSULAR D;4ETH;4G;2p t e G;2t p K;4L;2p t e L;5M;2t p N;2p t e N;5R
2t p R ROTUNDA;4S;4LONG S;4Z;4ALPHA;4B;4BETA;4SCHWA;4F;4L z i MIDDLE TILDE
4O z LIGHT CENTRALIZATION u;4P;4ESH;4U z LIGHT CENTRALIZATION u;4W;4A z DIAERESIS;4O z DIAERESIS
4U z DIAERESIS;1UP TACK a;1KAVYKA a q;3o;1DOT a o;1WIDE INVERTED BRIDGE c;1DOT c o;1DELETION MARK
1i INVERTED BREVE c;1ALMOST EQUAL TO c;1o bHEAD a;1q bHEAD AND DOWN bHEAD c;0LATIN e p A z RING c
1t p A z RING c;1e p B z DOT a;1t p B z DOT a;1e p B z DOT c;1t p B z DOT c;1e p B z LINE c
1t p B z LINE c;1e p C z CEDILLA AND ACUTE;1t p C z CEDILLA AND ACUTE;1e p D z DOT a;1t p D z DOT a
1e p D z DOT c;1t p D z DOT c;1e p D z LINE c;1t p D z LINE c;1e p D z CEDILLA;1t p D z CEDILLA
1e p D z CIRCUMFLEX c;1t p D z CIRCUMFLEX c;1e p E z MACRON AND GRAVE;1t p E z MACRON AND GRAVE
1e p E z MACRON AND ACUTE;1t p E z MACRON AND ACUTE;1e p E z CIRCUMFLEX c;1t p E z CIRCUMFLEX c
1e p E z TILDE c;1t p E z TILDE c;1e p E z CEDILLA AND BREVE;1t p E z CEDILLA AND BREVE
1e p F z DOT a;1t p F z DOT a;1e p G z MACRON;1t p G z MACRON;1e p H z DOT a;1t p H z DOT a
1e p H z DOT c;1t p H z DOT c;1e p H z DIAERESIS;1t p H z DIAERESIS;1e p H z CEDILLA
1t p H z CEDILLA;1e p H z BREVE c;1t p H z BREVE c;1e p I z TILDE c;1t p I z TILDE c
1e p I z DIAERESIS AND ACUTE;1t p I z DIAERESIS AND ACUTE;1e p K z ACUTE;1t p K z ACUTE
1e p K z DOT c;1t p K z DOT c;1e p K z LINE c;1t p K z LINE c;1e p L z DOT c;1t p L z DOT c
1e p L z DOT c AND MACRON;1t p L z DOT c AND MACRON;1e p L z LINE c;1t p L z LINE c
1e p L z CIRCUMFLEX c;1t p L z CIRCUMFLEX c;1e p M z ACUTE;1t p M z ACUTE;1e p M z DOT a
1t p M z DOT a;1e p M z DOT c;1t p M z DOT c;1e p N z DOT a;1t p N z DOT a;1e p N z DOT c
1t p N z DOT c;1e p N z LINE c;1t p N z LINE c;1e p N z CIRCUMFLEX c;1t p N z CIRCUMFLEX c
1e p O z TILDE AND ACUTE;1t p O z TILDE AND ACUTE;1e p O z TILDE AND DIAERESIS
1t p O z TILDE AND DIAERESIS;1e p O z MACRON AND GRAVE;1t p O z MACRON AND GRAVE
1e p O z MACRON AND ACUTE;1t p O z MACRON AND ACUTE;1e p P z ACUTE;1t p P z ACUTE;1e p P z DOT a
1t p P z DOT a;1e p R z DOT a;1t p R z DOT a;1e p R z DOT c;1t p R z DOT c
1e p R z DOT c AND MACRON;1t p R z DOT c AND MACRON;1e p R z LINE c;1t p R z LINE c;1e p S z DOT a
1t p S z DOT a;1e p S z DOT c;1t p S z DOT c;1e p S z ACUTE AND DOT a;1t p S z ACUTE AND DOT a
1e p S z CARON AND DOT a;1t p S z CARON AND DOT a;1e p S z DOT c AND DOT a;1t p S z DOT c AND DOT a
1e p T z DOT a;1t p T z DOT a;1e p T z DOT c;1t p T z DOT c;1e p T z LINE c;1t p T z LINE c
1e p T z CIRCUMFLEX c;1t p T z CIRCUMFLEX c;1e p U z DIAERESIS c;1t p U z DIAERESIS c
1e p U z TILDE c;1t p U z TILDE c;1e p U z CIRCUMFLEX c;1t p U z CIRCUMFLEX c
1e p U z TILDE AND ACUTE;1t p U z TILDE AND ACUTE;1e p U z MACRON AND DIAERESIS
1t p U z MACRON AND DIAERESIS;1e p V z TILDE;1t p V z TILDE;1e p V z DOT c;1t p V z DOT c
1e p W z GRAVE;1t p W z GRAVE;1e p W z ACUTE;1t p W z ACUTE;1e p W z DIAERESIS;1t p W z DIAERESIS
1e p W z DOT a;1t p W z DOT a;1e p W z DOT c;1t p W z DOT c;1e p X z DOT a;1t p X z DOT a
1e p X z DIAERESIS;1t p X z DIAERESIS;1e p Y z DOT a;1t p Y z DOT a;1e p Z z CIRCUMFLEX
1t p Z z CIRCUMFLEX;1e p Z z DOT c;1t p Z z DOT c;1e p Z z LINE c;1t p Z z LINE c;3H z LINE c
3T z DIAERESIS;3W z RING a;3Y z RING a;3A z q HALF RING;3LONG S z DOT a;6DIAGONAL u;6HIGH u
1e p SHARP S;1t p DELTA;1e p A z DOT c;1t p A z DOT c;1e p A z HOOK a;1t p A z HOOK a
1e p A z CIRCUMFLEX AND ACUTE;1t p A z CIRCUMFLEX AND ACUTE;1e p A z CIRCUMFLEX AND GRAVE
1t p A z CIRCUMFLEX AND GRAVE;1e p A z CIRCUMFLEX AND HOOK a;1t p A z CIRCUMFLEX AND HOOK a
1e p A z CIRCUMFLEX AND TILDE;1t p A z CIRCUMFLEX AND TILDE;1e p A z CIRCUMFLEX AND DOT c
1t p A z CIRCUMFLEX AND DOT c;1e p A z BREVE AND ACUTE;1t p A z BREVE AND ACUTE
1e p A z BREVE AND GRAVE;1t p A z BREVE AND GRAVE;1e p A z BREVE AND HOOK a
1t p A z BREVE AND HOOK a;1e p A z BREVE AND TILDE;1t p A z BREVE AND TILDE
1e p A z BREVE AND DOT c;1t p A z BREVE AND DOT c;1e p E z DOT c;1t p E z DOT c;1e p E z HOOK a
1t p E z HOOK a;1e p E z TILDE;1t p E z TILDE;1e p E z CIRCUMFLEX AND ACUTE
1t p E z CIRCUMFLEX AND ACUTE;1e p E z CIRCUMFLEX AND GRAVE;1t p E z CIRCUMFLEX AND GRAVE
1e p E z CIRCUMFLEX AND HOOK a;1t p E z CIRCUMFLEX AND HOOK a;1e p E z CIRCUMFLEX AND TILDE
1t p E z CIRCUMFLEX AND TILDE;1e p E z CIRCUMFLEX AND DOT c;1t p E z CIRCUMFLEX AND DOT c
1e p I z HOOK a;1t p I z HOOK a;1e p I z DOT c;1t p I z DOT c;1e p O z DOT c;1t p O z DOT c
1e p O z HOOK a;1t p O z HOOK a;1e p O z CIRCUMFLEX AND ACUTE;1t p O z CIRCUMFLEX AND ACUTE
1e p O z CIRCUMFLEX AND GRAVE;1t p O z CIRCUMFLEX AND GRAVE;1e p O z CIRCUMFLEX AND HOOK a
1t p O z CIRCUMFLEX AND HOOK a;1e p O z CIRCUMFLEX AND TILDE;1t p O z CIRCUMFLEX AND TILDE
1e p O z CIRCUMFLEX AND DOT c;1t p O z CIRCUMFLEX AND DOT c;1e p O z HORN AND ACUTE
1t p O z HORN AND ACUTE;1e p O z HORN AND GRAVE;1t p O z HORN AND GRAVE;1e p O z HORN AND HOOK a
1t p O z HORN AND HOOK a;1e p O z HORN AND TILDE;1t p O z HORN AND TILDE;1e p O z HORN AND DOT c
1t p O z HORN AND DOT c;1e p U z DOT c;1t p U z DOT c;1e p U z HOOK a;1t p U z HOOK a
1e p U z HORN AND ACUTE;1t p U z HORN AND ACUTE;1e p U z HORN AND GRAVE;1t p U z HORN AND GRAVE
1e p U z HORN AND HOOK a;1t p U z HORN AND HOOK a;1e p U z HORN AND TILDE;1t p U z HORN AND TILDE
1e p U z HORN AND DOT c;1t p U z HORN AND DOT c;1e p Y z GRAVE;1t p Y z GRAVE;1e p Y z DOT c
1t p Y z DOT c;1e p Y z HOOK a;1t p Y z HOOK a;1e p Y z TILDE;1t p Y z TILDE;1e p MIDDLE-WELSH LL
1t p MIDDLE-WELSH LL;1e p MIDDLE-WELSH V;1t p MIDDLE-WELSH V;1e p Y z LOOP;1t p Y z LOOP
0GREEK t p ALPHA z PSILI;5DASIA;5PSILI AND VARIA;5DASIA AND VARIA;5PSILI AND OXIA;5DASIA AND OXIA
5PSILI AND PERISPOMENI;5DASIA AND PERISPOMENI;1e p ALPHA z PSILI;5DASIA;5PSILI AND VARIA
5DASIA AND VARIA;5PSILI AND OXIA;5DASIA AND OXIA;5PSILI AND PERISPOMENI;5DASIA AND PERISPOMENI
1t p EPSILON z PSILI;5DASIA;5PSILI AND VARIA;5DASIA AND VARIA;5PSILI AND OXIA;5DASIA AND OXIA
1F18=1e p EPSILON z PSILI;5DASIA;5PSILI AND VARIA;5DASIA AND VARIA;5PSILI AND OXIA;5DASIA AND OXIA
1F20=1t p ETA z PSILI;5DASIA;5PSILI AND VARIA;5DASIA AND VARIA;5PSILI AND OXIA;5DASIA AND OXIA
5PSILI AND PERISPOMENI;5DASIA AND PERISPOMENI;1e p ETA z PSILI;5DASIA;5PSILI AND VARIA
5DASIA AND VARIA;5PSILI AND OXIA;5DASIA AND OXIA;5PSILI AND PERISPOMENI;5DASIA AND PERISPOMENI
1t p IOTA z PSILI;5DASIA;5PSILI AND VARIA;5DASIA AND VARIA;5PSILI AND OXIA;5DASIA AND OXIA
5PSILI AND PERISPOMENI;5DASIA AND PERISPOMENI;1e p IOTA z PSILI;5DASIA;5PSILI AND VARIA
5DASIA AND VARIA;5PSILI AND OXIA;5DASIA AND OXIA;5PSILI AND PERISPOMENI;5DASIA AND PERISPOMENI
1t p OMICRON z PSILI;5DASIA;5PSILI AND VARIA;5DASIA AND VARIA;5PSILI AND OXIA;5DASIA AND OXIA
1F48=1e p OMICRON z PSILI;5DASIA;5PSILI AND VARIA;5DASIA AND VARIA;5PSILI AND OXIA;5DASIA AND OXIA
1F50=1t p UPSILON z PSILI;5DASIA;5PSILI AND VARIA;5DASIA AND VARIA;5PSILI AND OXIA;5DASIA AND OXIA
5PSILI AND PERISPOMENI;5DASIA AND PERISPOMENI;1F59=1e p UPSILON z DASIA;1F5B=6AND VARIA;1F5D=7OXIA
1F5F=7PERISPOMENI;1t p OMEGA z PSILI;5DASIA;5PSILI AND VARIA;5DASIA AND VARIA;5PSILI AND OXIA
5DASIA AND OXIA;5PSILI AND PERISPOMENI;5DASIA AND PERISPOMENI;1e p OMEGA z PSILI;5DASIA
5PSILI AND VARIA;5DASIA AND VARIA;5PSILI AND OXIA;5DASIA AND OXIA;5PSILI AND PERISPOMENI
5DASIA AND PERISPOMENI;1t p ALPHA z VARIA;5OXIA;3EPSILON z VARIA;5OXIA;3ETA z VARIA;5OXIA
3IOTA z VARIA;5OXIA;3OMICRON z VARIA;5OXIA;3UPSILON z VARIA;5OXIA;3OMEGA z VARIA;5OXIA
1F80=3ALPHA z PSILI AND YPOGEGRAMMENI;5DASIA AND YPOGEGRAMMENI;5PSILI AND VARIA AND YPOGEGRAMMENI
5DASIA AND VARIA AND YPOGEGRAMMENI;5PSILI AND OXIA AND YPOGEGRAMMENI
5DASIA AND OXIA AND YPOGEGRAMMENI;5PSILI AND PERISPOMENI AND YPOGEGRAMMENI
5DASIA AND PERISPOMENI AND YPOGEGRAMMENI;1e p ALPHA z PSILI AND PROSGEGRAMMENI
5DASIA AND PROSGEGRAMMENI;5PSILI AND VARIA AND PROSGEGRAMMENI;5DASIA AND VARIA AND PROSGEGRAMMENI
5PSILI AND OXIA AND PROSGEGRAMMENI;5DASIA AND OXIA AND PROSGEGRAMMENI
5PSILI AND PERISPOMENI AND PROSGEGRAMMENI;5DASIA AND PERISPOMENI AND PROSGEGRAMMENI
1t p ETA z PSILI AND YPOGEGRAMMENI;5DASIA AND YPOGEGRAMMENI;5PSILI AND VARIA AND YPOGEGRAMMENI
5DASIA AND VARIA AND YPOGEGRAMMENI;5PSILI AND OXIA AND YPOGEGRAMMENI
5DASIA AND OXIA AND YPOGEGRAMMENI;5PSILI AND PERISPOMENI AND YPOGEGRAMMENI
5DASIA AND PERISPOMENI AND YPOGEGRAMMENI;1e p ETA z PSILI AND PROSGEGRAMMENI
5DASIA AND PROSGEGRAMMENI;5PSILI AND VARIA AND PROSGEGRAMMENI;5DASIA AND VARIA AND PROSGEGRAMMENI
5PSILI AND OXIA AND PROSGEGRAMMENI;5DASIA AND OXIA AND PROSGEGRAMMENI
5PSILI AND PERISPOMENI AND PROSGEGRAMMENI;5DASIA AND PERISPOMENI AND PROSGEGRAMMENI
1t p OMEGA z PSILI AND YPOGEGRAMMENI;5DASIA AND YPOGEGRAMMENI;5PSILI AND VARIA AND YPOGEGRAMMENI
5DASIA AND VARIA AND YPOGEGRAMMENI;5PSILI AND OXIA AND YPOGEGRAMMENI
5DASIA AND OXIA AND YPOGEGRAMMENI;5PSILI AND PERISPOMENI AND YPOGEGRAMMENI
5DASIA AND PERISPOMENI AND YPOGEGRAMMENI;1e p OMEGA z PSILI AND PROSGEGRAMMENI
5DASIA AND PROSGEGRAMMENI;5PSILI AND VARIA AND PROSGEGRAMMENI;5DASIA AND VARIA AND PROSGEGRAMMENI
5PSILI AND OXIA AND PROSGEGRAMMENI;5DASIA AND OXIA AND PROSGEGRAMMENI
5PSILI AND PERISPOMENI AND PROSGEGRAMMENI;5DASIA AND PERISPOMENI AND PROSGEGRAMMENI
1t p ALPHA z VRACHY;5MACRON;5VARIA AND YPOGEGRAMMENI;5YPOGEGRAMMENI;5OXIA AND YPOGEGRAMMENI
1FB6=5PERISPOMENI;6AND YPOGEGRAMMENI;1e p ALPHA z VRACHY;5MACRON;5VARIA;5OXIA;5PROSGEGRAMMENI
1KORONIS;1PROSGEGRAMMENI;1PSILI;1PERISPOMENI;1DIALYTIKA AND PERISPOMENI
1t p ETA z VARIA AND YPOGEGRAMMENI;5YPOGEGRAMMENI;5OXIA AND YPOGEGRAMMENI;1FC6=5PERISPOMENI
6AND YPOGEGRAMMENI;1e p EPSILON z VARIA;5OXIA;3ETA z VARIA;5OXIA;5PROSGEGRAMMENI;1PSILI AND VARIA
3OXIA;3PERISPOMENI;1t p IOTA z VRACHY;5MACRON;5DIALYTIKA AND VARIA;7OXIA;1FD6=5PERISPOMENI
5DIALYTIKA AND PERISPOMENI;1e p IOTA z VRACHY;5MACRON;5VARIA;5OXIA;1FDD=1DASIA AND VARIA;3OXIA
3PERISPOMENI;1t p UPSILON z VRACHY;5MACRON;5DIALYTIKA AND VARIA;7OXIA;3RHO z PSILI;5DASIA
3UPSILON z PERISPOMENI;5DIALYTIKA AND PERISPOMENI;1e p UPSILON z VRACHY;5MACRON;5VARIA;5OXIA
3RHO z DASIA;1DIALYTIKA AND VARIA;3OXIA;1VARIA;1FF2=1t p OMEGA z VARIA AND YPOGEGRAMMENI
5YPOGEGRAMMENI;5OXIA AND YPOGEGRAMMENI;1FF6=5PERISPOMENI;6AND YPOGEGRAMMENI;1e p OMICRON z VARIA
5OXIA;3OMEGA z VARIA;5OXIA;5PROSGEGRAMMENI;1OXIA;1DASIA"

end TrustWeb.Text.CharacterName
