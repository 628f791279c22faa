/-!
# Names of punctuation and symbols

The code points from 2000 to 2FFF, in hexadecimal.
`Entry.read` tells how the entries are written.
-/

namespace TrustWeb.Text.CharacterName

/-- The names of code points 2000 to 2FFF. -/
def symbols : String :=
"2000=0EN QUAD;0EM QUAD;0EN SPACE;0EM SPACE;0w-PER-EM SPACE;0FOUR-PER-EM SPACE;0SIX-PER-EM SPACE
0FIGURE SPACE;0PUNCTUATION SPACE;0THIN SPACE;0HAIR SPACE;0ZERO WIDTH SPACE;2NON-JOINER;2JOINER
0o-TO-q MARK;0q-TO-o MARK;0HYPHEN;0NON-BREAKING HYPHEN;0FIGURE DASH;0EN DASH;0EM DASH;0l BAR
0i y LINE;1LOW LINE;0o SINGLE QUOTATION MARK;0q SINGLE QUOTATION MARK;0SINGLE LOW-9 QUOTATION MARK
1HIGH-REVERSED-9 QUOTATION MARK;0o i QUOTATION MARK;0q i QUOTATION MARK;0i LOW-9 QUOTATION MARK
1HIGH-REVERSED-9 QUOTATION MARK;0DAGGER;0i DAGGER;0BULLET;0TRIANGULAR BULLET;0ONE DOT LEADER
0TWO DOT LEADER;0l ELLIPSIS;0HYPHENATION POINT;0LINE SEPARATOR;0PARAGRAPH SEPARATOR
0o-TO-q EMBEDDING;0q-TO-o EMBEDDING;0POP DIRECTIONAL kATTING;0o-TO-q OVERRIDE;0q-TO-o OVERRIDE
0Nb NO-BREAK SPACE;0PER MILLE s;1TEN THOUSAND s;0PRIME;0i PRIME;0TRIPLE PRIME;0REVERSED PRIME
1i PRIME;1TRIPLE PRIME;0CARET;0SINGLE o-POINTING ANGLE QUOTATION MARK
1q-POINTING ANGLE QUOTATION MARK;0REFERENCE MARK;0i EXCLAMATION MARK;0INTERROBANG;0OVERLINE
0UNDERTIE;0CHARACTER TIE;0CARET INSERTION POINT;0ASTERISM;0HYPHEN BULLET;0FRACTION SLASH
0o SQUARE BRACKET z QUILL;0q SQUARE BRACKET z QUILL;0i QUESTION MARK;0QUESTION EXCLAMATION MARK
0EXCLAMATION QUESTION MARK;0TIRONIAN s ET;0REVERSED PILCROW s;0d oWARDS BULLET;1qWARDS BULLET
0LOW ASTERISK;0REVERSED SEMICOLON;0CLOSE UP;0TWO ASTERISKS ALIGNED yLY;0COMMERCIAL MINUS s
0SWUNG DASH;0INVERTED UNDERTIE;0FLOWER PUNCTUATION MARK;0w DOT PUNCTUATION;0QUADRUPLE PRIME
0FOUR DOT PUNCTUATION;0FIVE DOT PUNCTUATION;0TWO DOT PUNCTUATION;0FOUR DOT MARK;0DOTTED CROSS
0TRICOLON;0y FOUR h;0MEDIUM MATHEMATICAL SPACE;0WORD JOINER;0FUNCTION APPLICATION;0INVISIBLE TIMES
1SEPARATOR;1PLUS;2066=0o-TO-q ISOLATE;0q-TO-o ISOLATE;0FIRST STRONG ISOLATE
0POP DIRECTIONAL ISOLATE;0INHIBIT SYMMETRIC SWAPPING;0ACTIVATE SYMMETRIC SWAPPING
0INHIBIT ARABIC k SHAPING;0ACTIVATE ARABIC k SHAPING;0NATIONAL DIGIT SHAPES;0NOMINAL DIGIT SHAPES
0SUPERSCRIPT ZERO;1LATIN t p I;2074=1FOUR;1FIVE;1SIX;1SEVEN;1EIGHT;1NINE;1PLUS s;1MINUS;1EQUALS s
1o PARENTHESIS;1q PARENTHESIS;1LATIN t p N;0SUBSCRIPT ZERO;1ONE;1TWO;1w;1FOUR;1FIVE;1SIX;1SEVEN
1EIGHT;1NINE;1PLUS s;1MINUS;1EQUALS s;1o PARENTHESIS;1q PARENTHESIS;2090=0LATIN SUBSCRIPT t p A;4E
4O;4X;4SCHWA;4H;4K;4L;4M;4N;4P;4S;4T;20A0=0EURO-CURRENCY s;0COLON s;0CRUZEIRO s;0FRENCH FRANC s
0LIRA s;0MILL s;0NAIRA s;0PESETA s;0RUPEE s;0WON s;0NEW SHEQEL s;0DONG s;0EURO s;0KIP s;0TUGRIK s
0DRACHMA s;0GERMAN PENNY s;0PESO s;0GUARANI s;0AUSTRAL s;0HRYVNIA s;0CEDI s;0LIVRE TOURNOIS s
0SPESMILO s;0TENGE s;0INDIAN RUPEE s;0TURKISH LIRA s;0NORDIC MARK s;0MANAT s;0RUBLE s;0LARI s
0BITCOIN s;0SOM s;20D0=0COMBINING o HARPOON a;1q HARPOON a;1LONG y LINE OVERLAY
1SHORT y LINE OVERLAY;1ANTICLOCKWISE b a;1CLOCKWISE b a;1o b a;1q b a;1RING OVERLAY
1CLOCKWISE RING OVERLAY;1ANTICLOCKWISE RING OVERLAY;1w h a;1FOUR h a;1ENCLOSING f;2SQUARE;2DIAMOND
2f BACKSLASH;1o q b a;1ENCLOSING SCREEN;2KEYCAP;2UPWARD POINTING x;1REVERSE SOLIDUS OVERLAY
1i y u OVERLAY;1ANNUITY v;1TRIPLE UNDERDOT;1WIDE BRIDGE a;1oWARDS b OVERLAY;1LONG i SOLIDUS OVERLAY
1qWARDS HARPOON z BARB DOWNWARDS;1oWARDS HARPOON z BARB DOWNWARDS;1o b c;1q b c;1ASTERISK a
2100=0ACCOUNT OF;0ADDRESSED TO THE SUBJECT;0i-STRUCK e C;0DEGREE CELSIUS;0CENTRE LINE v;0CARE OF
0CADA UNA;0EULER CONSTANT;0SCRUPLE;0DEGREE FAHRENHEIT;0SCRIPT t G;1e H;0d-p e H;0i-STRUCK e H
0PLANCK CONSTANT;2OVER TWO PI;0SCRIPT e I;0d-p e I;0SCRIPT e L;1t L;0L B BAR v;0i-STRUCK e N
0NUMERO s;0SOUND RECORDING COPYq;0SCRIPT e P;0i-STRUCK e P;2Q;0SCRIPT e R;0d-p e R;0i-STRUCK e R
0PRESCRIPTION TAKE;0RESPONSE;0SERVICE MARK;0TELEPHONE s;0TRADE MARK s;0VERSICLE;0i-STRUCK e Z
0OUNCE s;0OHM s;0INVERTED OHM s;0d-p e Z;0TURNED GREEK t p IOTA;0KELVIN s;0ANGSTROM s;0SCRIPT e B
0d-p e C;0ESTIMATED v;0SCRIPT t E;1e E;2F;0TURNED e F;0SCRIPT e M;1t O;0ALEF v;0BET v;0GIMEL v
0DALET v;0INkATION SOURCE;0ROTATED e Q;0FACSIMILE s;0i-STRUCK t PI;2GAMMA;1e GAMMA;2PI
1N-ARY SUMMATION;0TURNED SANS-SERIF e G;3L;0REVERSED SANS-SERIF e L;0TURNED SANS-SERIF e Y
0i-STRUCK ITALIC e D;2t D;3E;3I;3J;0PROPERTY LINE;0TURNED AMPERSAND;0PER s;0AKTIESELSKAB
0TURNED t F;0v FOR SAMARITAN SOURCE;0VULGAR FRACTION ONE SEVENTH;3NINTH;3TENTH;3THIRD;2TWO THIRDS
2ONE FIFTH;2TWO FIFTHS;2w FIFTHS;2FOUR FIFTHS;2ONE SIXTH;2FIVE SIXTHS;2ONE EIGHTH;2w EIGHTHS
2FIVE EIGHTHS;2SEVEN EIGHTHS;0FRACTION NUMERATOR ONE;0ROMAN NUMERAL ONE;2TWO;2w;2FOUR;2FIVE;2SIX
2SEVEN;2EIGHT;2NINE;2TEN;2ELEVEN;2TWELVE;2FIFTY;2ONE HUNDRED;2FIVE HUNDRED;2ONE THOUSAND
0t ROMAN NUMERAL ONE;3TWO;3w;3FOUR;3FIVE;3SIX;3SEVEN;3EIGHT;3NINE;3TEN;3ELEVEN;3TWELVE;3FIFTY
3ONE HUNDRED;3FIVE HUNDRED;3ONE THOUSAND;0ROMAN NUMERAL ONE THOUSAND C D;2FIVE THOUSAND
2TEN THOUSAND;2REVERSED ONE HUNDRED;0LATIN t p REVERSED C;0ROMAN NUMERAL SIX LATE k;2FIFTY EARLY k
3THOUSAND;2ONE HUNDRED THOUSAND;0VULGAR FRACTION ZERO THIRDS;0TURNED DIGIT TWO;2w;2190=0oWARDS b
0UPWARDS b;0qWARDS b;0DOWNWARDS b;0o q b;0UP DOWN b;0NORTH WEST b;1EAST b;0SOUTH EAST b;1WEST b
0oWARDS b z u;0qWARDS b z u;0oWARDS WAVE b;0qWARDS WAVE b;0oWARDS TWO HEADED b
0UPWARDS TWO HEADED b;0qWARDS TWO HEADED b;0DOWNWARDS TWO HEADED b;0oWARDS b z TAIL
0qWARDS b z TAIL;0oWARDS b FROM BAR;0UPWARDS b FROM BAR;0qWARDS b FROM BAR;0DOWNWARDS b FROM BAR
0UP DOWN b z BASE;0oWARDS b z HOOK;0qWARDS b z HOOK;0oWARDS b z LOOP;0qWARDS b z LOOP;0o q WAVE b
2b z u;0DOWNWARDS ZIGZAG b;0UPWARDS b z TIP oWARDS;4qWARDS;0DOWNWARDS b z TIP oWARDS;4qWARDS
0qWARDS b z CORNER DOWNWARDS;0DOWNWARDS b z CORNER oWARDS;0ANTICLOCKWISE TOP SEMIf b
0CLOCKWISE TOP SEMIf b;0NORTH WEST b TO LONG BAR;0oWARDS b TO BAR OVER qWARDS b TO BAR
0ANTICLOCKWISE OPEN f b;0CLOCKWISE OPEN f b;0oWARDS HARPOON z BARB UPWARDS;4DOWNWARDS
0UPWARDS HARPOON z BARB qWARDS;4oWARDS;0qWARDS HARPOON z BARB UPWARDS;4DOWNWARDS
0DOWNWARDS HARPOON z BARB qWARDS;4oWARDS;0qWARDS b OVER oWARDS b;0UPWARDS b oWARDS OF DOWNWARDS b
0oWARDS b OVER qWARDS b;1PAIRED bS;0UPWARDS PAIRED bS;0qWARDS PAIRED bS;0DOWNWARDS PAIRED bS
0oWARDS HARPOON OVER qWARDS HARPOON;0qWARDS HARPOON OVER oWARDS HARPOON;0oWARDS i b z u
0o q i b z u;0qWARDS i b z u;0oWARDS i b;0UPWARDS i b;0qWARDS i b;0DOWNWARDS i b;0o q i b
0UP DOWN i b;0NORTH WEST i b;1EAST i b;0SOUTH EAST i b;1WEST i b;0oWARDS TRIPLE b;0qWARDS TRIPLE b
0oWARDS SQUIGGLE b;0qWARDS SQUIGGLE b;0UPWARDS b z i u;0DOWNWARDS b z i u;0oWARDS DASHED b
0UPWARDS DASHED b;0qWARDS DASHED b;0DOWNWARDS DASHED b;0oWARDS b TO BAR;0qWARDS b TO BAR
0oWARDS WHITE b;0UPWARDS WHITE b;0qWARDS WHITE b;0DOWNWARDS WHITE b;0UPWARDS WHITE b FROM BAR
3ON PEDESTAL;5z l BAR;6y BAR;2i b;4ON PEDESTAL;0qWARDS WHITE b FROM WALL;0NORTH WEST b TO CORNER
0SOUTH EAST b TO CORNER;0UP DOWN WHITE b;0q b z t f;0DOWNWARDS b oWARDS OF UPWARDS b;0w qWARDS bS
0oWARDS b z y u;0qWARDS b z y u;0o q b z y u;0oWARDS b z i y u;0qWARDS b z i y u;0o q b z i y u
0oWARDS OPEN-HEADED b;0qWARDS OPEN-HEADED b;0o q OPEN-HEADED b;0FOR ALL;0COMPLEMENT
0PARTIAL DIFFERENTIAL;0THERE EXISTS;1DOES NOT EXIST;0EMPTY SET;0INCREMENT;0NABLA;0ELEMENT OF
0NOT AN ELEMENT OF;0t ELEMENT OF;0CONTAINS AS MEMBER;0DOES NOT CONTAIN AS MEMBER
0t CONTAINS AS MEMBER;0END OF PROOF;0N-ARY PRODUCT;1COPRODUCT;1SUMMATION;0MINUS s;0MINUS-OR-PLUS s
0DOT PLUS;0DIVISION SLASH;0SET MINUS;0ASTERISK OPERATOR;0RING OPERATOR;0BULLET OPERATOR
0SQUARE ROOT;0CUBE ROOT;0FOURTH ROOT;0PROPORTIONAL TO;0INFINITY;0q ANGLE;0ANGLE;0MEASURED ANGLE
0SPHERICAL ANGLE;0DIVIDES;0DOES NOT DIVIDE;0PARALLEL TO;0NOT PARALLEL TO;0LOGICAL AND;1OR
0INTERSECTION;0UNION;0INTEGRAL;0i INTEGRAL;0TRIPLE INTEGRAL;0CONTOUR INTEGRAL;0SURFACE INTEGRAL
0VOLUME INTEGRAL;0CLOCKWISE INTEGRAL;1CONTOUR INTEGRAL;0ANTICLOCKWISE CONTOUR INTEGRAL;0THEREFORE
0BECAUSE;0RATIO;0PROPORTION;0DOT MINUS;0EXCESS;0GEOMETRIC PROPORTION;0HOMOTHETIC;0TILDE OPERATOR
0REVERSED TILDE;0INVERTED LAZY S;0SINE WAVE;0WREATH PRODUCT;0NOT TILDE;0MINUS TILDE
0ASYMPTOTICALLY EQUAL TO;0NOT ASYMPTOTICALLY EQUAL TO;0APPROXIMATELY EQUAL TO
1BUT NOT ACTUALLY EQUAL TO;0NEITHER APPROXIMATELY NOR ACTUALLY EQUAL TO;0ALMOST EQUAL TO
0NOT ALMOST EQUAL TO;0ALMOST EQUAL OR EQUAL TO;0TRIPLE TILDE;0ALL EQUAL TO;0EQUIVALENT TO
0GEOMETRICALLY EQUIVALENT TO;0DIFFERENCE BETWEEN;0APPROACHES THE LIMIT;0GEOMETRICALLY EQUAL TO
0APPROXIMATELY EQUAL TO OR THE IMAGE OF;0IMAGE OF OR APPROXIMATELY EQUAL TO;0COLON EQUALS
0EQUALS COLON;0RING IN EQUAL TO;1EQUAL TO;0CORRESPONDS TO;0ESTIMATES;0EQUIANGULAR TO;0STAR EQUALS
0DELTA EQUAL TO;0EQUAL TO BY DEFINITION;0MEASURED BY;0QUESTIONED EQUAL TO;0NOT EQUAL TO
0IDENTICAL TO;0NOT IDENTICAL TO;0STRICTLY EQUIVALENT TO;0LESS-THAN OR EQUAL TO
0GREATER-THAN OR EQUAL TO;0LESS-THAN OVER EQUAL TO;0GREATER-THAN OVER EQUAL TO
0LESS-THAN BUT NOT EQUAL TO;0GREATER-THAN BUT NOT EQUAL TO;0MUCH LESS-THAN;1GREATER-THAN;0BETWEEN
0NOT EQUIVALENT TO;1LESS-THAN;1GREATER-THAN;0NEITHER LESS-THAN NOR EQUAL TO
1GREATER-THAN NOR EQUAL TO;0LESS-THAN OR EQUIVALENT TO;0GREATER-THAN OR EQUIVALENT TO
0NEITHER LESS-THAN NOR EQUIVALENT TO;1GREATER-THAN NOR EQUIVALENT TO;0LESS-THAN OR GREATER-THAN
0GREATER-THAN OR LESS-THAN;0NEITHER LESS-THAN NOR GREATER-THAN;1GREATER-THAN NOR LESS-THAN
0PRECEDES;0SUCCEEDS;0PRECEDES OR EQUAL TO;0SUCCEEDS OR EQUAL TO;0PRECEDES OR EQUIVALENT TO
0SUCCEEDS OR EQUIVALENT TO;0DOES NOT PRECEDE;2SUCCEED;0SUBSET OF;0SUPERSET OF;0NOT A SUBSET OF
2SUPERSET OF;0SUBSET OF OR EQUAL TO;0SUPERSET OF OR EQUAL TO;0NEITHER A SUBSET OF NOR EQUAL TO
2SUPERSET OF NOR EQUAL TO;0SUBSET OF z NOT EQUAL TO;0SUPERSET OF z NOT EQUAL TO;0MULTISET
1MULTIPLICATION;1UNION;0SQUARE IMAGE OF;1ORIGINAL OF;1IMAGE OF OR EQUAL TO;1ORIGINAL OF OR EQUAL TO
1CAP;1CUP;0fD PLUS;1MINUS;1TIMES;1DIVISION SLASH;1DOT OPERATOR;1RING OPERATOR;1ASTERISK OPERATOR
1EQUALS;1DASH;0SQUARED PLUS;1MINUS;1TIMES;1DOT OPERATOR;0q TACK;0o TACK;0DOWN TACK;0UP TACK
0ASSERTION;0MODELS;0TRUE;0FORCES;0TRIPLE y BAR q TURNSTILE;0i y BAR i q TURNSTILE;0DOES NOT PROVE
0NOT TRUE;0DOES NOT FORCE;0NEGATED i y BAR i q TURNSTILE;0PRECEDES UNDER RELATION
0SUCCEEDS UNDER RELATION;0NORMAL SUBGROUP OF;0CONTAINS AS NORMAL SUBGROUP
0NORMAL SUBGROUP OF OR EQUAL TO;0CONTAINS AS NORMAL SUBGROUP OR EQUAL TO;0ORIGINAL OF;0IMAGE OF
0MULTIMAP;0HERMITIAN CONJUGATE MATRIX;0INTERCALATE;0XOR;0NAND;0NOR;0q ANGLE z ARC;1x
0N-ARY LOGICAL AND;2OR;1INTERSECTION;1UNION;0DIAMOND OPERATOR;0DOT OPERATOR;0STAR OPERATOR
0DIVISION TIMES;0BOWTIE;0o NORMAL FACTOR SEMIDIRECT PRODUCT;0q NORMAL FACTOR SEMIDIRECT PRODUCT
0o SEMIDIRECT PRODUCT;0q SEMIDIRECT PRODUCT;0REVERSED TILDE EQUALS;0CURLY LOGICAL OR;2AND;0i SUBSET
1SUPERSET;1INTERSECTION;1UNION;0PITCHFORK;0EQUAL AND PARALLEL TO;0LESS-THAN z DOT
0GREATER-THAN z DOT;0VERY MUCH LESS-THAN;2GREATER-THAN;0LESS-THAN EQUAL TO OR GREATER-THAN
0GREATER-THAN EQUAL TO OR LESS-THAN;0EQUAL TO OR LESS-THAN;3GREATER-THAN;3PRECEDES;3SUCCEEDS
0DOES NOT PRECEDE OR EQUAL;2SUCCEED OR EQUAL;0NOT SQUARE IMAGE OF OR EQUAL TO
2ORIGINAL OF OR EQUAL TO;0SQUARE IMAGE OF OR NOT EQUAL TO;1ORIGINAL OF OR NOT EQUAL TO
0LESS-THAN BUT NOT EQUIVALENT TO;0GREATER-THAN BUT NOT EQUIVALENT TO
0PRECEDES BUT NOT EQUIVALENT TO;0SUCCEEDS BUT NOT EQUIVALENT TO;0NOT NORMAL SUBGROUP OF
0DOES NOT CONTAIN AS NORMAL SUBGROUP;0NOT NORMAL SUBGROUP OF OR EQUAL TO
0DOES NOT CONTAIN AS NORMAL SUBGROUP OR EQUAL;0y ELLIPSIS;0MIDLINE l ELLIPSIS
0UP q DIAGONAL ELLIPSIS;0DOWN q DIAGONAL ELLIPSIS;0ELEMENT OF z LONG l u;3y BAR AT END OF l u
0t ELEMENT OF z y BAR AT END OF l u;0ELEMENT OF z DOT a;3OVERBAR;0t ELEMENT OF z OVERBAR
0ELEMENT OF z UNDERBAR;3TWO l uS;0CONTAINS z LONG l u;2y BAR AT END OF l u
0t CONTAINS z y BAR AT END OF l u;0CONTAINS z OVERBAR;0t CONTAINS z OVERBAR
0Z NOTATION BAG MEMBERSHIP;0DIAMETER s;0ELECTRIC b;0HOUSE;0UP bHEAD;0DOWN bHEAD;0PROJECTIVE
0PERSPECTIVE;0WAVY LINE;0o CEILING;0q CEILING;0o FLOOR;0q FLOOR;0BOTTOM q CROP;1o CROP;0TOP q CROP
1o CROP;0REVERSED NOT s;0SQUARE LOZENGE;0ARC;0SEGMENT;0SECTOR;0TELEPHONE RECORDER
0POSITION INDICATOR;0VIEWDATA SQUARE;0PLACE OF INTEREST s;0TURNED NOT s;0WATCH;0HOURGLASS
0TOP o CORNER;1q CORNER;0BOTTOM o CORNER;1q CORNER;0TOP HALF INTEGRAL;0BOTTOM HALF INTEGRAL;0FROWN
0SMILE;0UP bHEAD BETWEEN TWO l BARS;0OPTION KEY;0ERASE TO THE q;0X IN A RECTANGLE BOX;0KEYBOARD
0o-POINTING ANGLE BRACKET;0q-POINTING ANGLE BRACKET;0ERASE TO THE o;0BENZENE RING;0CYLINDRICITY
0ALL AROUND-PROFILE;0SYMMETRY;0TOTAL RUNOUT;0DIMENSION ORIGIN;0CONICAL TAPER;0SLOPE;0COUNTERBORE
0COUNTERSINK;0APL FUNCTIONAL v I-BEAM;3SQUISH QUAD;3QUAD EQUAL;4DIVIDE;4DIAMOND;4JOT;4f;3f STILE
4JOT;3SLASH BAR;3BACKSLASH BAR;3QUAD SLASH;4BACKSLASH;4LESS-THAN;4GREATER-THAN;3oWARDS VANE
3qWARDS VANE;3QUAD oWARDS b;4qWARDS b;3f BACKSLASH;3DOWN TACK UNDERBAR;3DELTA STILE
3QUAD DOWN CARET;4DELTA;3DOWN TACK JOT;3UPWARDS VANE;3QUAD UPWARDS b;3UP TACK OVERBAR;3DEL STILE
3QUAD UP CARET;4DEL;3UP TACK JOT;3DOWNWARDS VANE;3QUAD DOWNWARDS b;3QUOTE UNDERBAR;3DELTA UNDERBAR
3DIAMOND UNDERBAR;3JOT UNDERBAR;3f UNDERBAR;3UP SHOE JOT;3QUOTE QUAD;3f STAR;3QUAD COLON
3UP TACK DIAERESIS;3DEL DIAERESIS;3STAR DIAERESIS;3JOT DIAERESIS;3f DIAERESIS;3DOWN SHOE STILE
3o SHOE STILE;3TILDE DIAERESIS;3GREATER-THAN DIAERESIS;3COMMA BAR;3DEL TILDE;3ZILDE;3STILE TILDE
3SEMICOLON UNDERBAR;3QUAD NOT EQUAL;4QUESTION;3DOWN CARET TILDE;3UP CARET TILDE;3IOTA;3RHO;3OMEGA
3ALPHA UNDERBAR;3EPSILON UNDERBAR;3IOTA UNDERBAR;3OMEGA UNDERBAR;3ALPHA;0NOT CHECK MARK
0q ANGLE z DOWNWARDS ZIGZAG b;0SHOULDERED OPEN BOX;0BELL v;0y LINE z MIDDLE DOT;0INSERTION v
0CONTINUOUS UNDERLINE v;0DISCONTINUOUS UNDERLINE v;0EMPHASIS v;0COMPOSITION v
0WHITE SQUARE z CENTRE y LINE;0ENTER v;0ALTERNATIVE KEY v;0HELM v;0fD l BAR z NOTCH;1x DOWN
0BROKEN f z NORTHWEST b;0UNDO v;0MONOSTABLE v;0HYSTERESIS v;0OPEN-CIRCUIT-OUTPUT H-TYPE v;1L-TYPE v
0PASSIVE-PULL-DOWN-OUTPUT v;0PASSIVE-PULL-UP-OUTPUT v;0DIRECT CURRENT v k TWO;0SOFTWARE-FUNCTION v
0APL FUNCTIONAL v QUAD;0DECIMAL SEPARATOR KEY v;0PREVIOUS PAGE;0NEXT PAGE;0PRINT SCREEN v
0CLEAR SCREEN v;0o PARENTHESIS UPPER HOOK;2EXTENSION;2LOWER HOOK;0q PARENTHESIS UPPER HOOK
2EXTENSION;2LOWER HOOK;0o SQUARE BRACKET UPPER CORNER;3EXTENSION;3LOWER CORNER
0q SQUARE BRACKET UPPER CORNER;3EXTENSION;3LOWER CORNER;0o CURLY BRACKET UPPER HOOK;3MIDDLE PIECE
3LOWER HOOK;0CURLY BRACKET EXTENSION;0q CURLY BRACKET UPPER HOOK;3MIDDLE PIECE;3LOWER HOOK
0INTEGRAL EXTENSION;0l LINE EXTENSION;0UPPER o OR LOWER q CURLY BRACKET SECTION
1q OR LOWER o CURLY BRACKET SECTION;0SUMMATION TOP;1BOTTOM;0TOP SQUARE BRACKET
0BOTTOM SQUARE BRACKET;3OVER TOP SQUARE BRACKET;0RADICAL v BOTTOM;0o y BOX LINE;0q y BOX LINE
0l SCAN LINE-1;2LINE-3;2LINE-7;2LINE-9;0DENTISTRY v LIGHT y AND TOP q;5BOTTOM q;4z f
3DOWN AND l z f;3UP AND l z f;3y z x;3DOWN AND l z x;3UP AND l z x;3y AND WAVE;3DOWN AND l z WAVE
3UP AND l z WAVE;3DOWN AND l;3UP AND l;3y AND TOP o;5BOTTOM o;0SQUARE FOOT;0RETURN v;0EJECT v
0y LINE EXTENSION;0METRICAL BREVE;1LONG OVER SHORT;1SHORT OVER LONG;1LONG OVER TWO SHORTS
1TWO SHORTS OVER LONG;3JOINED;1TRISEME;1TETRASEME;1PENTASEME;0EARTH GROUND;0FUSE;0TOP PARENTHESIS
0BOTTOM PARENTHESIS;0TOP CURLY BRACKET;0BOTTOM CURLY BRACKET;0TOP TORTOISE SHELL BRACKET
0BOTTOM TORTOISE SHELL BRACKET;0WHITE TRAPEZIUM;0BENZENE RING z f;0STRAIGHTNESS;0FLATNESS
0AC CURRENT;0ELECTRICAL INTERSECTION;0DECIMAL EXPONENT v;0d q-POINTING i x;1o-POINTING i x
1UP-POINTING i x;1DOWN-POINTING i x;1q-POINTING i x z y BAR;1o-POINTING i x z y BAR
1q-POINTING x z i y BAR;0ALARM CLOCK;0STOPWATCH;0TIMER CLOCK;0HOURGLASS z FLOWING SAND
0d MEDIUM o-POINTING x;2q-POINTING x;2UP-POINTING x;2DOWN-POINTING x;0i y BAR;0d SQUARE FOR STOP
1f FOR RECORD;0POWER v;1ON-OFF v;1ON v;1SLEEP v;0OBSERVER EYE v;0v FOR NULL;2START OF HEADING;4TEXT
2END OF TEXT;4TRANSMISSION;2ENQUIRY;2ACKNOWLEDGE;2BELL;2BACKSPACE;2l TABULATION;2LINE FEED
2y TABULATION;2k FEED;2CARRIAGE RETURN;2SHIFT OUT;3IN;2DATA LINK ESCAPE;2DEVICE CONTROL ONE;4TWO;4w
4FOUR;2NEGATIVE ACKNOWLEDGE;2SYNCHRONOUS IDLE;2END OF TRANSMISSION BLOCK;2CANCEL;2END OF MEDIUM
2SUBSTITUTE;2ESCAPE;2FILE SEPARATOR;2GROUP SEPARATOR;2RECORD SEPARATOR;2UNIT SEPARATOR;2SPACE
2DELETE;0BLANK v;0OPEN BOX;0v FOR NEWLINE;2DELETE k TWO;2SUBSTITUTE k TWO;2440=0OCR HOOK;1CHAIR
1FORK;1INVERTED FORK;1BELT BUCKLE;1BOW TIE;1BRANCH BANK IDENTIFICATION;1AMOUNT OF CHECK;1DASH
1CUSTOMER ACCOUNT NUMBER;1i BACKSLASH;2460=0fD DIGIT ONE;2TWO;2w;2FOUR;2FIVE;2SIX;2SEVEN;2EIGHT
2NINE;1NUMBER TEN;2ELEVEN;2TWELVE;2THIRTEEN;2FOURTEEN;2FIFTEEN;2SIXTEEN;2SEVENTEEN;2EIGHTEEN
2NINETEEN;2TWENTY;0PARENTHESIZED DIGIT ONE;2TWO;2w;2FOUR;2FIVE;2SIX;2SEVEN;2EIGHT;2NINE;1NUMBER TEN
2ELEVEN;2TWELVE;2THIRTEEN;2FOURTEEN;2FIFTEEN;2SIXTEEN;2SEVENTEEN;2EIGHTEEN;2NINETEEN;2TWENTY
0DIGIT ONE FULL STOP;1TWO FULL STOP;1w FULL STOP;1FOUR FULL STOP;1FIVE FULL STOP;1SIX FULL STOP
1SEVEN FULL STOP;1EIGHT FULL STOP;1NINE FULL STOP;0NUMBER TEN FULL STOP;1ELEVEN FULL STOP
1TWELVE FULL STOP;1THIRTEEN FULL STOP;1FOURTEEN FULL STOP;1FIFTEEN FULL STOP;1SIXTEEN FULL STOP
1SEVENTEEN FULL STOP;1EIGHTEEN FULL STOP;1NINETEEN FULL STOP;1TWENTY FULL STOP
0PARENTHESIZED LATIN t p A;4B;4C;4D;4E;4F;4G;4H;4I;4J;4K;4L;4M;4N;4O;4P;4Q;4R;4S;4T;4U;4V;4W;4X;4Y
4Z;0fD LATIN e p A;4B;4C;4D;4E;4F;4G;4H;4I;4J;4K;4L;4M;4N;4O;4P;4Q;4R;4S;4T;4U;4V;4W;4X;4Y;4Z
2t p A;4B;4C;4D;4E;4F;4G;4H;4I;4J;4K;4L;4M;4N;4O;4P;4Q;4R;4S;4T;4U;4V;4W;4X;4Y;4Z;1DIGIT ZERO
0NEGATIVE fD NUMBER ELEVEN;3TWELVE;3THIRTEEN;3FOURTEEN;3FIFTEEN;3SIXTEEN;3SEVENTEEN;3EIGHTEEN
3NINETEEN;3TWENTY;0i fD DIGIT ONE;3TWO;3w;3FOUR;3FIVE;3SIX;3SEVEN;3EIGHT;3NINE;2NUMBER TEN
0NEGATIVE fD DIGIT ZERO;0BOX DRAWINGS LIGHT l;2HEAVY l;2LIGHT y;2HEAVY y;2LIGHT TRIPLE DASH l
2HEAVY TRIPLE DASH l;2LIGHT TRIPLE DASH y;2HEAVY TRIPLE DASH y;2LIGHT QUADRUPLE DASH l
2HEAVY QUADRUPLE DASH l;2LIGHT QUADRUPLE DASH y;2HEAVY QUADRUPLE DASH y;2LIGHT DOWN AND q
2DOWN LIGHT AND q HEAVY;3HEAVY AND q LIGHT;2HEAVY DOWN AND q;2LIGHT DOWN AND o
2DOWN LIGHT AND o HEAVY;3HEAVY AND o LIGHT;2HEAVY DOWN AND o;2LIGHT UP AND q;2UP LIGHT AND q HEAVY
3HEAVY AND q LIGHT;2HEAVY UP AND q;2LIGHT UP AND o;2UP LIGHT AND o HEAVY;3HEAVY AND o LIGHT
2HEAVY UP AND o;2LIGHT y AND q;2y LIGHT AND q HEAVY;2UP HEAVY AND q DOWN LIGHT
2DOWN HEAVY AND q UP LIGHT;2y HEAVY AND q LIGHT;2DOWN LIGHT AND q UP HEAVY
2UP LIGHT AND q DOWN HEAVY;2HEAVY y AND q;2LIGHT y AND o;2y LIGHT AND o HEAVY
2UP HEAVY AND o DOWN LIGHT;2DOWN HEAVY AND o UP LIGHT;2y HEAVY AND o LIGHT
2DOWN LIGHT AND o UP HEAVY;2UP LIGHT AND o DOWN HEAVY;2HEAVY y AND o;2LIGHT DOWN AND l
2o HEAVY AND q DOWN LIGHT;2q HEAVY AND o DOWN LIGHT;2DOWN LIGHT AND l HEAVY;3HEAVY AND l LIGHT
2q LIGHT AND o DOWN HEAVY;2o LIGHT AND q DOWN HEAVY;2HEAVY DOWN AND l;2LIGHT UP AND l
2o HEAVY AND q UP LIGHT;2q HEAVY AND o UP LIGHT;2UP LIGHT AND l HEAVY;3HEAVY AND l LIGHT
2q LIGHT AND o UP HEAVY;2o LIGHT AND q UP HEAVY;2HEAVY UP AND l;2LIGHT y AND l
2o HEAVY AND q y LIGHT;2q HEAVY AND o y LIGHT;2y LIGHT AND l HEAVY;2UP HEAVY AND DOWN l LIGHT
2DOWN HEAVY AND UP l LIGHT;2y HEAVY AND l LIGHT;2o UP HEAVY AND q DOWN LIGHT
2q UP HEAVY AND o DOWN LIGHT;2o DOWN HEAVY AND q UP LIGHT;2q DOWN HEAVY AND o UP LIGHT
2DOWN LIGHT AND UP l HEAVY;2UP LIGHT AND DOWN l HEAVY;2q LIGHT AND o y HEAVY;2o LIGHT AND q y HEAVY
2HEAVY y AND l;2LIGHT i DASH l;2HEAVY i DASH l;2LIGHT i DASH y;2HEAVY i DASH y;2i l;3y
2DOWN SINGLE AND q i;3i AND q SINGLE;2i DOWN AND q;2DOWN SINGLE AND o i;3i AND o SINGLE
2i DOWN AND o;2UP SINGLE AND q i;3i AND q SINGLE;2i UP AND q;2UP SINGLE AND o i;3i AND o SINGLE
2i UP AND o;2y SINGLE AND q i;3i AND q SINGLE;2i y AND q;2y SINGLE AND o i;3i AND o SINGLE
2i y AND o;2DOWN SINGLE AND l i;3i AND l SINGLE;2i DOWN AND l;2UP SINGLE AND l i;3i AND l SINGLE
2i UP AND l;2y SINGLE AND l i;3i AND l SINGLE;2i y AND l;2LIGHT ARC DOWN AND q;6o;4UP AND o;6q
3DIAGONAL UPPER q TO LOWER o;5o TO LOWER q;4CROSS;3o;3UP;3q;3DOWN;2HEAVY o;3UP;3q;3DOWN
2LIGHT o AND HEAVY q;3UP AND HEAVY DOWN;2HEAVY o AND LIGHT q;3UP AND LIGHT DOWN;0UPPER HALF BLOCK
0LOWER ONE EIGHTH BLOCK;2QUARTER BLOCK;1w EIGHTHS BLOCK;1HALF BLOCK;1FIVE EIGHTHS BLOCK
1w QUARTERS BLOCK;1SEVEN EIGHTHS BLOCK;0FULL BLOCK;0o SEVEN EIGHTHS BLOCK;1w QUARTERS BLOCK
1FIVE EIGHTHS BLOCK;1HALF BLOCK;1w EIGHTHS BLOCK;1ONE QUARTER BLOCK;2EIGHTH BLOCK;0q HALF BLOCK
0LIGHT SHADE;0MEDIUM SHADE;0DARK SHADE;0UPPER ONE EIGHTH BLOCK;0q ONE EIGHTH BLOCK
0QUADRANT LOWER o;2q;1UPPER o;3AND LOWER o AND LOWER q;5q;4UPPER q AND LOWER o;8q;2q;3AND LOWER o
6AND LOWER q;0d SQUARE;0WHITE SQUARE;2z ROUNDED CORNERS;2CONTAINING d t SQUARE;0SQUARE z l FILL
2y FILL;2ORTHOGONAL CROSSHATCH FILL;2UPPER o TO LOWER q FILL;3q TO LOWER o FILL
2DIAGONAL CROSSHATCH FILL;0d t SQUARE;0WHITE t SQUARE;0d RECTANGLE;0WHITE RECTANGLE;0d y RECTANGLE
0WHITE y RECTANGLE;0d PARALLELOGRAM;0WHITE PARALLELOGRAM;0d UP-POINTING x;0WHITE UP-POINTING x
0d UP-POINTING t x;0WHITE UP-POINTING t x;0d q-POINTING x;0WHITE q-POINTING x;0d q-POINTING t x
0WHITE q-POINTING t x;0d q-POINTING POINTER;0WHITE q-POINTING POINTER;0d DOWN-POINTING x
0WHITE DOWN-POINTING x;0d DOWN-POINTING t x;0WHITE DOWN-POINTING t x;0d o-POINTING x
0WHITE o-POINTING x;0d o-POINTING t x;0WHITE o-POINTING t x;0d o-POINTING POINTER
0WHITE o-POINTING POINTER;0d DIAMOND;0WHITE DIAMOND;2CONTAINING d t DIAMOND;0FISHEYE;0LOZENGE
0WHITE f;0DOTTED f;0f z y FILL;0BULLSEYE;0d f;0f z o HALF d;2q HALF d;2LOWER HALF d;2UPPER HALF d
3q QUADRANT d;2ALL BUT UPPER o QUADRANT d;0o HALF d f;0q HALF d f;0INVERSE BULLET;1WHITE f
0UPPER HALF INVERSE WHITE f;0LOWER HALF INVERSE WHITE f;0UPPER o QUADRANT CIRCULAR ARC
1q QUADRANT CIRCULAR ARC;0LOWER q QUADRANT CIRCULAR ARC;1o QUADRANT CIRCULAR ARC;0UPPER HALF f
0LOWER HALF f;0d LOWER q x;2o x;1UPPER o x;2q x;0WHITE BULLET;0SQUARE z o HALF d;2q HALF d
2UPPER o DIAGONAL HALF d;2LOWER q DIAGONAL HALF d;0WHITE SQUARE z y BISECTING LINE
1UP-POINTING x z DOT;0UP-POINTING x z o HALF d;3q HALF d;0LARGE f;0WHITE SQUARE z UPPER o QUADRANT
3LOWER o QUADRANT;4q QUADRANT;3UPPER q QUADRANT;1f z UPPER o QUADRANT;3LOWER o QUADRANT;4q QUADRANT
3UPPER q QUADRANT;0UPPER o x;1q x;0LOWER o x;0WHITE MEDIUM SQUARE;0d MEDIUM SQUARE
0WHITE MEDIUM t SQUARE;0d MEDIUM t SQUARE;0LOWER q x;0d SUN z RAYS;0CLOUD;0UMBRELLA;0SNOWMAN;0COMET
0d STAR;0WHITE STAR;0LIGHTNING;0THUNDERSTORM;0SUN;0ASCENDING NODE;0DESCENDING NODE;0CONJUNCTION
0OPPOSITION;0d TELEPHONE;0WHITE TELEPHONE;0BALLOT BOX;2z CHECK;3X;0SALTIRE;0UMBRELLA z RAIN DROPS
0HOT BEVERAGE;0WHITE SHOGI PIECE;0d SHOGI PIECE;0SHAMROCK;0REVERSED ROTATED FLORAL HEART BULLET
0d o POINTING INDEX;1q POINTING INDEX;0WHITE o POINTING INDEX;1UP POINTING INDEX;1q POINTING INDEX
1DOWN POINTING INDEX;0SKULL AND CROSSBONES;0CAUTION s;0RADIOACTIVE s;0BIOHAZARD s;0CADUCEUS;0ANKH
0ORTHODOX CROSS;0CHI RHO;0CROSS OF LORRAINE;2JERUSALEM;0STAR AND CRESCENT;0FARSI v;0ADI SHAKTI
0HAMMER AND SICKLE;0PEACE v;0YIN YANG;0TRIGRAM FOR HEAVEN;2LAKE;2FIRE;2THUNDER;2WIND;2WATER
2MOUNTAIN;2EARTH;0WHEEL OF DHARMA;0WHITE FROWNING FACE;1SMILING FACE;0d SMILING FACE
0WHITE SUN z RAYS;0FIRST QUARTER MOON;0LAST QUARTER MOON;0MERCURY;0FEMALE s;0EARTH;0MALE s;0JUPITER
0SATURN;0URANUS;0NEPTUNE;0PLUTO;0ARIES;0TAURUS;0GEMINI;0CANCER;0LEO;0VIRGO;0LIBRA;0SCORPIUS
0SAGITTARIUS;0CAPRICORN;0AQUARIUS;0PISCES;0WHITE CHESS KING;2QUEEN;2ROOK;2BISHOP;2KNIGHT;2PAWN
0d CHESS KING;2QUEEN;2ROOK;2BISHOP;2KNIGHT;2PAWN;1SPADE SUIT;0WHITE HEART SUIT;1DIAMOND SUIT
0d CLUB SUIT;0WHITE SPADE SUIT;0d HEART SUIT;1DIAMOND SUIT;0WHITE CLUB SUIT;0HOT SPRINGS
0QUARTER NOTE;0EIGHTH NOTE;0BEAMED EIGHTH NOTES;1SIXTEENTH NOTES;0MUSIC FLAT s;1NATURAL s;1SHARP s
0WEST SYRIAC CROSS;0EAST SYRIAC CROSS;0UNIVERSAL RECYCLING v;0RECYCLING v FOR TYPE-1 PLASTICS
3TYPE-2 PLASTICS;3TYPE-3 PLASTICS;3TYPE-4 PLASTICS;3TYPE-5 PLASTICS;3TYPE-6 PLASTICS
3TYPE-7 PLASTICS;3GENERIC MATERIALS;0d UNIVERSAL RECYCLING v;0RECYCLED PAPER v
0PARTIALLY-RECYCLED PAPER v;0PERMANENT PAPER s;0WHEELCHAIR v;0DIE FACE-1;1FACE-2;1FACE-3;1FACE-4
1FACE-5;1FACE-6;0WHITE f z DOT q;3TWO h;0d f z WHITE DOT q;3TWO WHITE h;0MONOGRAM FOR YANG;2YIN
0DIGRAM FOR GREATER YANG;2LESSER YIN;3YANG;2GREATER YIN;0WHITE FLAG;0d FLAG;0HAMMER AND PICK
0ANCHOR;0CROSSED SWORDS;0STAFF OF AESCULAPIUS;0SCALES;0ALEMBIC;0FLOWER;0GEAR;0STAFF OF HERMES
0ATOM v;0FLEUR-DE-LIS;0OUTLINED WHITE STAR;0w LINES CONVERGING q;3o;0WARNING s;0HIGH VOLTAGE s
0iD FEMALE s;1MALE s;0INTERLOCKED FEMALE AND MALE s;0MALE AND FEMALE s;1z u s
3AND MALE AND FEMALE s;0y MALE z u s;0l MALE z u s;0MEDIUM WHITE f;1d f;1t WHITE f;0MARRIAGE v
0DIVORCE v;0UNMARRIED PARTNERSHIP v;0COFFIN;0FUNERAL URN;0NEUTER;0CERES;0PALLAS;0JUNO;0VESTA
0CHIRON;0d MOON LILITH;0SEXTILE;0SEMISEXTILE;0QUINCUNX;0SESQUIQUADRATE;0SOCCER BALL;0BASEBALL
0SQUARED KEY;0WHITE DRAUGHTS MAN;2KING;0d DRAUGHTS MAN;2KING;0SNOWMAN zOUT SNOW;0SUN BEHIND CLOUD
0RAIN;0d SNOWMAN;0THUNDER CLOUD AND RAIN;0TURNED WHITE SHOGI PIECE;1d SHOGI PIECE
0WHITE DIAMOND IN SQUARE;0CROSSING LANES;0DISABLED CAR;0OPHIUCHUS;0PICK;0CAR SLIDING
0HELMET z WHITE CROSS;0fD CROSSING LANES;0CHAINS;0NO ENTRY;0ALTERNATE ONE-WAY o WAY TRAFFIC
0d TWO-WAY o WAY TRAFFIC;0WHITE TWO-WAY o WAY TRAFFIC;0d o LANE MERGE;0WHITE o LANE MERGE
0DRIVE SLOW s;0HEAVY WHITE DOWN-POINTING x;0o CLOSED ENTRY;0SQUARED SALTIRE
0FALLING DIAGONAL IN WHITE f IN d SQUARE;0d TRUCK;0RESTRICTED o ENTRY-1;2ENTRY-2
0ASTRONOMICAL v FOR URANUS;0HEAVY f z u AND TWO h a;0PENTAGRAM;0q-HANDED INTERLACED PENTAGRAM
0o-HANDED INTERLACED PENTAGRAM;0INVERTED PENTAGRAM;0d CROSS ON SHIELD;0SHINTO SHRINE;0CHURCH
0CASTLE;0HISTORIC SITE;0GEAR zOUT HUB;1z HANDLES;0MAP v FOR LIGHTHOUSE;0MOUNTAIN
0UMBRELLA ON GROUND;0FOUNTAIN;0FLAG IN HOLE;0FERRY;0SAILBOAT;0SQUARE FOUR CORNERS;0SKIER;0ICE SKATE
0PERSON z BALL;0TENT;0JAPANESE BANK v;0HEADSTONE GRAVEYARD v;0FUEL PUMP;0CUP ON d SQUARE
0WHITE FLAG z l MIDDLE d STRIPE;0d SAFETY SCISSORS;0UPPER BLADE SCISSORS;0d SCISSORS
0LOWER BLADE SCISSORS;0WHITE SCISSORS;1HEAVY CHECK MARK;0TELEPHONE LOCATION s;0TAPE DRIVE;0AIRPLANE
0ENVELOPE;0RAISED FIST;1HAND;0VICTORY HAND;0WRITING HAND;0LOWER q PENCIL;0PENCIL;0UPPER q PENCIL
0WHITE NIB;0d NIB;0CHECK MARK;0HEAVY CHECK MARK;0MULTIPLICATION X;0HEAVY MULTIPLICATION X;0BALLOT X
0HEAVY BALLOT X;0OUTLINED GREEK CROSS;0HEAVY GREEK CROSS;0OPEN CENTRE CROSS
0HEAVY OPEN CENTRE CROSS;0LATIN CROSS;0SHADOWED WHITE LATIN CROSS;0OUTLINED LATIN CROSS
0MALTESE CROSS;0STAR OF DAVID;0FOUR TEARDROP-SPOKED ASTERISK;1BALLOON-SPOKED ASTERISK
0HEAVY FOUR BALLOON-SPOKED ASTERISK;0FOUR CLUB-SPOKED ASTERISK;0d FOUR POINTED STAR
0WHITE FOUR POINTED STAR;0SPARKLES;0STRESS OUTLINED WHITE STAR;0fD WHITE STAR;0OPEN CENTRE d STAR
0d CENTRE WHITE STAR;0OUTLINED d STAR;0HEAVY OUTLINED d STAR;0PINWHEEL STAR;0SHADOWED WHITE STAR
0HEAVY ASTERISK;0OPEN CENTRE ASTERISK;0EIGHT SPOKED ASTERISK;1POINTED d STAR;2PINWHEEL STAR
0SIX POINTED d STAR;0EIGHT POINTED RECTILINEAR d STAR;0HEAVY EIGHT POINTED RECTILINEAR d STAR
0TWELVE POINTED d STAR;0SIXTEEN POINTED ASTERISK;0TEARDROP-SPOKED ASTERISK
0OPEN CENTRE TEARDROP-SPOKED ASTERISK;0HEAVY TEARDROP-SPOKED ASTERISK
0SIX PETALLED d AND WHITE FLORETTE;0d FLORETTE;0WHITE FLORETTE;0EIGHT PETALLED OUTLINED d FLORETTE
0fD OPEN CENTRE EIGHT POINTED STAR;0HEAVY TEARDROP-SPOKED PINWHEEL ASTERISK;0SNOWFLAKE
0TIGHT TRIFOLIATE SNOWFLAKE;0HEAVY CHEVRON SNOWFLAKE;0SPARKLE;0HEAVY SPARKLE
0BALLOON-SPOKED ASTERISK;0EIGHT TEARDROP-SPOKED PROPELLER ASTERISK
0HEAVY EIGHT TEARDROP-SPOKED PROPELLER ASTERISK;0CROSS MARK;0SHADOWED WHITE f
0NEGATIVE SQUARED CROSS MARK;0LOWER q DROP-SHADOWED WHITE SQUARE
0UPPER q DROP-SHADOWED WHITE SQUARE;0LOWER q SHADOWED WHITE SQUARE;0UPPER q SHADOWED WHITE SQUARE
0d QUESTION MARK ORNAMENT;0WHITE QUESTION MARK ORNAMENT;1EXCLAMATION MARK ORNAMENT
0d DIAMOND MINUS WHITE X;0HEAVY EXCLAMATION MARK v;0LIGHT y BAR;0MEDIUM y BAR;0HEAVY y BAR
1SINGLE TURNED COMMA QUOTATION MARK ORNAMENT;2COMMA QUOTATION MARK ORNAMENT
1i TURNED COMMA QUOTATION MARK ORNAMENT;2COMMA QUOTATION MARK ORNAMENT
1LOW SINGLE COMMA QUOTATION MARK ORNAMENT;2i COMMA QUOTATION MARK ORNAMENT
0CURVED STEM PARAGRAPH s ORNAMENT;0HEAVY EXCLAMATION MARK ORNAMENT;1HEART EXCLAMATION MARK ORNAMENT
1d HEART;0ROTATED HEAVY d HEART BULLET;0FLORAL HEART;0ROTATED FLORAL HEART BULLET
0MEDIUM o PARENTHESIS ORNAMENT;1q PARENTHESIS ORNAMENT;1FLATTENED o PARENTHESIS ORNAMENT
2q PARENTHESIS ORNAMENT;1o-POINTING ANGLE BRACKET ORNAMENT;1q-POINTING ANGLE BRACKET ORNAMENT
0HEAVY o-POINTING ANGLE QUOTATION MARK ORNAMENT;1q-POINTING ANGLE QUOTATION MARK ORNAMENT
1o-POINTING ANGLE BRACKET ORNAMENT;1q-POINTING ANGLE BRACKET ORNAMENT
0LIGHT o TORTOISE SHELL BRACKET ORNAMENT;1q TORTOISE SHELL BRACKET ORNAMENT
0MEDIUM o CURLY BRACKET ORNAMENT;1q CURLY BRACKET ORNAMENT;0DINGBAT NEGATIVE fD DIGIT ONE;4TWO;4w
4FOUR;4FIVE;4SIX;4SEVEN;4EIGHT;4NINE;3NUMBER TEN;1fD SANS-SERIF DIGIT ONE;4TWO;4w;4FOUR;4FIVE;4SIX
4SEVEN;4EIGHT;4NINE;3NUMBER TEN;1NEGATIVE fD SANS-SERIF DIGIT ONE;5TWO;5w;5FOUR;5FIVE;5SIX;5SEVEN
5EIGHT;5NINE;4NUMBER TEN;0HEAVY WIDE-HEADED qWARDS b;1PLUS s;1MINUS s;1DIVISION s;1SOUTH EAST b
1qWARDS b;1NORTH EAST b;0DRAFTING POINT qWARDS b;0HEAVY ROUND-TIPPED qWARDS b;0x-HEADED qWARDS b
0HEAVY x-HEADED qWARDS b;0DASHED x-HEADED qWARDS b;0HEAVY DASHED x-HEADED qWARDS b;0d qWARDS b
0w-D TOP-LIGHTED qWARDS bHEAD;1BOTTOM-LIGHTED qWARDS bHEAD;0d qWARDS bHEAD
0HEAVY d CURVED DOWNWARDS AND qWARDS b;3UPWARDS AND qWARDS b;0SQUAT d qWARDS b
0HEAVY CONCAVE-POINTED d qWARDS b;0q-SHADED WHITE qWARDS b;0o-SHADED WHITE qWARDS b
0BACK-TILTED SHADOWED WHITE qWARDS b;0FRONT-TILTED SHADOWED WHITE qWARDS b
0HEAVY LOWER q-SHADOWED WHITE qWARDS b;1UPPER q-SHADOWED WHITE qWARDS b
0NOTCHED LOWER q-SHADOWED WHITE qWARDS b;0CURLY LOOP;0NOTCHED UPPER q-SHADOWED WHITE qWARDS b
0fD HEAVY WHITE qWARDS b;0WHITE-FEATHERED qWARDS b;0d-FEATHERED SOUTH EAST b;1qWARDS b
1NORTH EAST b;0HEAVY d-FEATHERED SOUTH EAST b;2qWARDS b;2NORTH EAST b;0TEARDROP-BARBED qWARDS b
0HEAVY TEARDROP-SHANKED qWARDS b;0WEDGE-TAILED qWARDS b;0HEAVY WEDGE-TAILED qWARDS b
0OPEN-OUTLINED qWARDS b;0i CURLY LOOP;0w DIMENSIONAL ANGLE;0WHITE x CONTAINING t WHITE x
0PERPENDICULAR;0OPEN SUBSET;1SUPERSET;0o S-SHAPED BAG DELIMITER;0q S-SHAPED BAG DELIMITER
0OR z DOT INSIDE;0REVERSE SOLIDUS PRECEDING SUBSET;0SUPERSET PRECEDING SOLIDUS;0y BAR z l u
0MATHEMATICAL RISING DIAGONAL;0LONG DIVISION;0MATHEMATICAL FALLING DIAGONAL;0SQUARED LOGICAL AND
2OR;0WHITE DIAMOND z CENTRED DOT;0AND z DOT;0ELEMENT OF OPENING UPWARDS;0LOWER q CORNER z DOT
0UPPER o CORNER z DOT;0o OUTER JOIN;0q OUTER JOIN;0FULL OUTER JOIN;0LARGE UP TACK;1DOWN TACK
0o AND q i TURNSTILE;3TACK;1MULTIMAP;0LONG q TACK;1o TACK;0UP TACK z f a;0LOZENGE DIVIDED BY l RULE
0WHITE CONCAVE-SIDED DIAMOND;3z oWARDS TICK;4qWARDS TICK;1SQUARE z oWARDS TICK;3qWARDS TICK
0MATHEMATICAL o WHITE SQUARE BRACKET;1q WHITE SQUARE BRACKET;1o ANGLE BRACKET;1q ANGLE BRACKET
1o i ANGLE BRACKET;1q i ANGLE BRACKET;1o WHITE TORTOISE SHELL BRACKET
1q WHITE TORTOISE SHELL BRACKET;1o FLATTENED PARENTHESIS;1q FLATTENED PARENTHESIS
0UPWARDS QUADRUPLE b;0DOWNWARDS QUADRUPLE b;0ANTICLOCKWISE GAPPED f b;0CLOCKWISE GAPPED f b
0q b z fD PLUS;0LONG oWARDS b;1qWARDS b;1o q b;1oWARDS i b;1qWARDS i b;1o q i b;1oWARDS b FROM BAR
1qWARDS b FROM BAR;1oWARDS i b FROM BAR;1qWARDS i b FROM BAR;2SQUIGGLE b;0BRAILLE PATTERN BLANK
2h-1;2h-2;2h-12;2h-3;2h-13;2h-23;2h-123;2h-4;2h-14;2h-24;2h-124;2h-34;2h-134;2h-234;2h-1234;2h-5
2h-15;2h-25;2h-125;2h-35;2h-135;2h-235;2h-1235;2h-45;2h-145;2h-245;2h-1245;2h-345;2h-1345;2h-2345
2h-12345;2h-6;2h-16;2h-26;2h-126;2h-36;2h-136;2h-236;2h-1236;2h-46;2h-146;2h-246;2h-1246;2h-346
2h-1346;2h-2346;2h-12346;2h-56;2h-156;2h-256;2h-1256;2h-356;2h-1356;2h-2356;2h-12356;2h-456;2h-1456
2h-2456;2h-12456;2h-3456;2h-13456;2h-23456;2h-123456;2h-7;2h-17;2h-27;2h-127;2h-37;2h-137;2h-237
2h-1237;2h-47;2h-147;2h-247;2h-1247;2h-347;2h-1347;2h-2347;2h-12347;2h-57;2h-157;2h-257;2h-1257
2h-357;2h-1357;2h-2357;2h-12357;2h-457;2h-1457;2h-2457;2h-12457;2h-3457;2h-13457;2h-23457;2h-123457
2h-67;2h-167;2h-267;2h-1267;2h-367;2h-1367;2h-2367;2h-12367;2h-467;2h-1467;2h-2467;2h-12467;2h-3467
2h-13467;2h-23467;2h-123467;2h-567;2h-1567;2h-2567;2h-12567;2h-3567;2h-13567;2h-23567;2h-123567
2h-4567;2h-14567;2h-24567;2h-124567;2h-34567;2h-134567;2h-234567;2h-1234567;2h-8;2h-18;2h-28;2h-128
2h-38;2h-138;2h-238;2h-1238;2h-48;2h-148;2h-248;2h-1248;2h-348;2h-1348;2h-2348;2h-12348;2h-58
2h-158;2h-258;2h-1258;2h-358;2h-1358;2h-2358;2h-12358;2h-458;2h-1458;2h-2458;2h-12458;2h-3458
2h-13458;2h-23458;2h-123458;2h-68;2h-168;2h-268;2h-1268;2h-368;2h-1368;2h-2368;2h-12368;2h-468
2h-1468;2h-2468;2h-12468;2h-3468;2h-13468;2h-23468;2h-123468;2h-568;2h-1568;2h-2568;2h-12568
2h-3568;2h-13568;2h-23568;2h-123568;2h-4568;2h-14568;2h-24568;2h-124568;2h-34568;2h-134568
2h-234568;2h-1234568;2h-78;2h-178;2h-278;2h-1278;2h-378;2h-1378;2h-2378;2h-12378;2h-478;2h-1478
2h-2478;2h-12478;2h-3478;2h-13478;2h-23478;2h-123478;2h-578;2h-1578;2h-2578;2h-12578;2h-3578
2h-13578;2h-23578;2h-123578;2h-4578;2h-14578;2h-24578;2h-124578;2h-34578;2h-134578;2h-234578
2h-1234578;2h-678;2h-1678;2h-2678;2h-12678;2h-3678;2h-13678;2h-23678;2h-123678;2h-4678;2h-14678
2h-24678;2h-124678;2h-34678;2h-134678;2h-234678;2h-1234678;2h-5678;2h-15678;2h-25678;2h-125678
2h-35678;2h-135678;2h-235678;2h-1235678;2h-45678;2h-145678;2h-245678;2h-1245678;2h-345678
2h-1345678;2h-2345678;2h-12345678;0qWARDS TWO-HEADED b z y u;4i y u;0oWARDS i b z y u
0qWARDS i b z y u;0o q i b z y u;0qWARDS TWO-HEADED b FROM BAR;0oWARDS i b FROM BAR
0qWARDS i b FROM BAR;0DOWNWARDS b z l u;0UPWARDS b z l u;1TRIPLE b;0DOWNWARDS TRIPLE b
0oWARDS i DASH b;0qWARDS i DASH b;0oWARDS TRIPLE DASH b;0qWARDS TRIPLE DASH b
1TWO-HEADED TRIPLE DASH b;1b z DOTTED STEM;0UPWARDS b TO BAR;0DOWNWARDS b TO BAR
0qWARDS b z TAIL z y u;5i y u;1TWO-HEADED b z TAIL;5z y u;6i y u;0oWARDS b-TAIL;0qWARDS b-TAIL
0oWARDS i b-TAIL;0qWARDS i b-TAIL;0oWARDS b TO d DIAMOND;0qWARDS b TO d DIAMOND
0oWARDS b FROM BAR TO d DIAMOND;0qWARDS b FROM BAR TO d DIAMOND;0NORTH WEST AND SOUTH EAST b
1EAST AND SOUTH WEST b;1WEST b z HOOK;1EAST b z HOOK;0SOUTH EAST b z HOOK;1WEST b z HOOK
0NORTH WEST b AND NORTH EAST b;1EAST b AND SOUTH EAST b;0SOUTH EAST b AND SOUTH WEST b
1WEST b AND NORTH WEST b;0RISING DIAGONAL CROSSING FALLING DIAGONAL
0FALLING DIAGONAL CROSSING RISING DIAGONAL;0SOUTH EAST b CROSSING NORTH EAST b
0NORTH EAST b CROSSING SOUTH EAST b;0FALLING DIAGONAL CROSSING NORTH EAST b
0RISING DIAGONAL CROSSING SOUTH EAST b;0NORTH EAST b CROSSING NORTH WEST b
1WEST b CROSSING NORTH EAST b;0WAVE b POINTING DIRECTLY q;0b POINTING qWARDS THEN CURVING UPWARDS
5DOWNWARDS;2DOWNWARDS THEN CURVING oWARDS;5qWARDS;0q-SIDE ARC CLOCKWISE b
0o-SIDE ARC ANTICLOCKWISE b;0TOP ARC ANTICLOCKWISE b;0BOTTOM ARC ANTICLOCKWISE b
0TOP ARC CLOCKWISE b z MINUS;2ANTICLOCKWISE b z PLUS;0LOWER q SEMICIRCULAR CLOCKWISE b
1o SEMICIRCULAR ANTICLOCKWISE b;0ANTICLOCKWISE CLOSED f b;0CLOCKWISE CLOSED f b
0qWARDS b a SHORT oWARDS b;0oWARDS b a SHORT qWARDS b;0SHORT qWARDS b a oWARDS b;0qWARDS b z PLUS c
0oWARDS b z PLUS c;0qWARDS b THROUGH X;0o q b THROUGH t f;0UPWARDS TWO-HEADED b FROM t f
0o BARB UP q BARB DOWN HARPOON;2DOWN q BARB UP HARPOON;0UP BARB q DOWN BARB o HARPOON
2o DOWN BARB q HARPOON;0o BARB UP q BARB UP HARPOON;0UP BARB q DOWN BARB q HARPOON
0o BARB DOWN q BARB DOWN HARPOON;0UP BARB o DOWN BARB o HARPOON;0oWARDS HARPOON z BARB UP TO BAR
0qWARDS HARPOON z BARB UP TO BAR;0UPWARDS HARPOON z BARB q TO BAR
0DOWNWARDS HARPOON z BARB q TO BAR;0oWARDS HARPOON z BARB DOWN TO BAR
0qWARDS HARPOON z BARB DOWN TO BAR;0UPWARDS HARPOON z BARB o TO BAR
0DOWNWARDS HARPOON z BARB o TO BAR;0oWARDS HARPOON z BARB UP FROM BAR
0qWARDS HARPOON z BARB UP FROM BAR;0UPWARDS HARPOON z BARB q FROM BAR
0DOWNWARDS HARPOON z BARB q FROM BAR;0oWARDS HARPOON z BARB DOWN FROM BAR
0qWARDS HARPOON z BARB DOWN FROM BAR;0UPWARDS HARPOON z BARB o FROM BAR
0DOWNWARDS HARPOON z BARB o FROM BAR;0oWARDS HARPOON z BARB UP a oWARDS HARPOON z BARB DOWN
0UPWARDS HARPOON z BARB o BESIDE UPWARDS HARPOON z BARB q
0qWARDS HARPOON z BARB UP a qWARDS HARPOON z BARB DOWN
0DOWNWARDS HARPOON z BARB o BESIDE DOWNWARDS HARPOON z BARB q
0oWARDS HARPOON z BARB UP a qWARDS HARPOON z BARB UP;4DOWN a qWARDS HARPOON z BARB DOWN
0qWARDS HARPOON z BARB UP a oWARDS HARPOON z BARB UP;4DOWN a oWARDS HARPOON z BARB DOWN
0oWARDS HARPOON z BARB UP a LONG DASH;4DOWN c LONG DASH;0qWARDS HARPOON z BARB UP a LONG DASH
4DOWN c LONG DASH;0UPWARDS HARPOON z BARB o BESIDE DOWNWARDS HARPOON z BARB q
0DOWNWARDS HARPOON z BARB o BESIDE UPWARDS HARPOON z BARB q;0q i b z ROUNDED HEAD
0EQUALS s a qWARDS b;0TILDE OPERATOR a qWARDS b;0oWARDS b a TILDE OPERATOR
0qWARDS b a TILDE OPERATOR;3ALMOST EQUAL TO;0LESS-THAN a oWARDS b;0oWARDS b THROUGH LESS-THAN
0GREATER-THAN a qWARDS b;0SUBSET a qWARDS b;0oWARDS b THROUGH SUBSET;0SUPERSET a oWARDS b
0o FISH TAIL;0q FISH TAIL;0UP FISH TAIL;0DOWN FISH TAIL;0TRIPLE y BAR DELIMITER;0Z NOTATION SPOT
2TYPE COLON;0o WHITE CURLY BRACKET;0q WHITE CURLY BRACKET;0o WHITE PARENTHESIS;0q WHITE PARENTHESIS
0Z NOTATION o IMAGE BRACKET;2q IMAGE BRACKET;2o BINDING BRACKET;2q BINDING BRACKET
0o SQUARE BRACKET z UNDERBAR;0q SQUARE BRACKET z UNDERBAR;0o SQUARE BRACKET z TICK IN TOP CORNER
0q SQUARE BRACKET z TICK IN BOTTOM CORNER;0o SQUARE BRACKET z TICK IN BOTTOM CORNER
0q SQUARE BRACKET z TICK IN TOP CORNER;0o ANGLE BRACKET z DOT;0q ANGLE BRACKET z DOT
0o ARC LESS-THAN BRACKET;0q ARC GREATER-THAN BRACKET;0i o ARC GREATER-THAN BRACKET
1q ARC LESS-THAN BRACKET;0o d TORTOISE SHELL BRACKET;0q d TORTOISE SHELL BRACKET;0DOTTED FENCE
0y ZIGZAG LINE;0MEASURED ANGLE OPENING o;0q ANGLE VARIANT z SQUARE;0MEASURED q ANGLE z DOT
0ANGLE z S INSIDE;0ACUTE ANGLE;0SPHERICAL ANGLE OPENING o;3UP;0TURNED ANGLE;0REVERSED ANGLE
0ANGLE z UNDERBAR;0REVERSED ANGLE z UNDERBAR;0OBLIQUE ANGLE OPENING UP;3DOWN
0MEASURED ANGLE z OPEN ARM ENDING IN b POINTING UP AND q;9UP AND o;9DOWN AND q;9DOWN AND o
9q AND UP;9o AND UP;9q AND DOWN;9o AND DOWN;0REVERSED EMPTY SET;0EMPTY SET z OVERBAR;3t f a;3q b a
3o b a;0f z l BAR;0fD y BAR;1PARALLEL;1REVERSE SOLIDUS;1PERPENDICULAR
0f DIVIDED BY l BAR AND TOP HALF DIVIDED BY y BAR;1z SUPERIMPOSED X
0fD ANTICLOCKWISE-ROTATED DIVISION s;0UP b THROUGH f;0fD WHITE BULLET;1BULLET;1LESS-THAN
1GREATER-THAN;0f z t f TO THE q;2TWO l uS TO THE q;0SQUARED RISING DIAGONAL SLASH
1FALLING DIAGONAL SLASH;1ASTERISK;1t f;1SQUARE;0TWO JOINED SQUARES;0x z DOT a;2UNDERBAR;0S IN x
0x z SERIFS AT BOTTOM;0q x a o x;0o x BESIDE y BAR;0y BAR BESIDE q x;0BOWTIE z o HALF d;2q HALF d
0d BOWTIE;0TIMES z o HALF d;2q HALF d;0WHITE HOURGLASS;0d HOURGLASS;0o WIGGLY FENCE;0q WIGGLY FENCE
0o i WIGGLY FENCE;0q i WIGGLY FENCE;0INCOMPLETE INFINITY;0TIE OVER INFINITY
0INFINITY NEGATED z y BAR;0i-ENDED MULTIMAP;0SQUARE z CONTOURED OUTLINE;0INCREASES AS
0SHUFFLE PRODUCT;0EQUALS s AND SLANTED PARALLEL;5z TILDE a;0IDENTICAL TO AND SLANTED PARALLEL
0GLEICH STARK;0THERMODYNAMIC;0DOWN-POINTING x z o HALF d;3q HALF d;0d DIAMOND z DOWN b;1LOZENGE
0WHITE f z DOWN b;0d f z DOWN b;0ERROR-BARRED WHITE SQUARE;1d SQUARE;1WHITE DIAMOND;1d DIAMOND
1WHITE f;1d f;0RULE-DELAYED;0REVERSE SOLIDUS OPERATOR;0SOLIDUS z OVERBAR;0REVERSE SOLIDUS z l u
0BIG SOLIDUS;1REVERSE SOLIDUS;0i PLUS;0TRIPLE PLUS;0o-POINTING CURVED ANGLE BRACKET
0q-POINTING CURVED ANGLE BRACKET;0TINY;0MINY;0N-ARY fD DOT OPERATOR;2PLUS OPERATOR;2TIMES OPERATOR
1UNION OPERATOR z DOT;4PLUS;1SQUARE INTERSECTION OPERATOR;2UNION OPERATOR;0TWO LOGICAL AND OPERATOR
2OR OPERATOR;0N-ARY TIMES OPERATOR;0MODULO TWO SUM;0SUMMATION z INTEGRAL
0QUADRUPLE INTEGRAL OPERATOR;0FINITE PART INTEGRAL;0INTEGRAL z i u;1AVERAGE z SLASH
0CIRCULATION FUNCTION;0ANTICLOCKWISE INTEGRATION;0LINE INTEGRATION z RECTANGULAR PATH AROUND POLE
3SEMICIRCULAR PATH AROUND POLE;2NOT INCLUDING THE POLE;0INTEGRAL AROUND A POINT OPERATOR
0QUATERNION INTEGRAL OPERATOR;0INTEGRAL z oWARDS b z HOOK;2TIMES s;2INTERSECTION;2UNION;2OVERBAR
2UNDERBAR;0JOIN;0LARGE o x OPERATOR;0Z NOTATION SCHEMA COMPOSITION;3PIPING;3PROJECTION
0PLUS s z t f a;3CIRCUMFLEX ACCENT a;3TILDE a;3DOT c;3TILDE c;3SUBSCRIPT TWO;3d x
0MINUS s z COMMA a;3DOT c;3FALLING h;3RISING h;0PLUS s IN o HALF f;3q HALF f
0VECTOR OR CROSS PRODUCT;0MULTIPLICATION s z DOT a;3UNDERBAR;0SEMIDIRECT PRODUCT z BOTTOM CLOSED
0SMASH PRODUCT;0MULTIPLICATION s IN o HALF f;3q HALF f;0fD MULTIPLICATION s z CIRCUMFLEX ACCENT
0MULTIPLICATION s IN i f;0fD DIVISION s;0PLUS s IN x;0MINUS s IN x;0MULTIPLICATION s IN x
0INTERIOR PRODUCT;0qHAND INTERIOR PRODUCT;0Z NOTATION RELATIONAL COMPOSITION
0AMALGAMATION OR COPRODUCT;0INTERSECTION z DOT;0UNION z MINUS s;2OVERBAR;0INTERSECTION z OVERBAR
2LOGICAL AND;0UNION z LOGICAL OR;1a INTERSECTION;0INTERSECTION a UNION;0UNION a BAR a INTERSECTION
0INTERSECTION a BAR a UNION;0UNION BESIDE AND JOINED z UNION
0INTERSECTION BESIDE AND JOINED z INTERSECTION;0CLOSED UNION z SERIFS;1INTERSECTION z SERIFS
0i SQUARE INTERSECTION;2UNION;0CLOSED UNION z SERIFS AND SMASH PRODUCT;0LOGICAL AND z DOT a
1OR z DOT a;0i LOGICAL AND;2OR;0TWO INTERSECTING LOGICAL AND;3OR;0SLOPING LARGE OR;2AND
0LOGICAL OR OVERLAPPING LOGICAL AND;1AND z MIDDLE STEM;1OR z MIDDLE STEM;1AND z l DASH;1OR z l DASH
1AND z i OVERBAR;3UNDERBAR;3i UNDERBAR;0t VEE z UNDERBAR;0LOGICAL OR z i OVERBAR;4UNDERBAR
0Z NOTATION DOMAIN ANTIRESTRICTION;2RANGE ANTIRESTRICTION;0EQUALS s z DOT c;0IDENTICAL z DOT a
0TRIPLE l BAR z i y u;4TRIPLE y u;0TILDE OPERATOR z DOT a;3RISING h;0SIMILAR MINUS SIMILAR
0CONGRUENT z DOT a;0EQUALS z ASTERISK;0ALMOST EQUAL TO z CIRCUMFLEX ACCENT
0APPROXIMATELY EQUAL OR EQUAL TO;0EQUALS s a PLUS s;0PLUS s a EQUALS s;0EQUALS s a TILDE OPERATOR
0i COLON EQUAL;0TWO CONSECUTIVE EQUALS sS;0w CONSECUTIVE EQUALS sS;0EQUALS s z TWO h a AND TWO h c
0EQUIVALENT z FOUR h a;0LESS-THAN z f INSIDE;0GREATER-THAN z f INSIDE;0LESS-THAN z QUESTION MARK a
0GREATER-THAN z QUESTION MARK a;0LESS-THAN OR SLANTED EQUAL TO;0GREATER-THAN OR SLANTED EQUAL TO
0LESS-THAN OR SLANTED EQUAL TO z DOT INSIDE;0GREATER-THAN OR SLANTED EQUAL TO z DOT INSIDE
0LESS-THAN OR SLANTED EQUAL TO z DOT a;0GREATER-THAN OR SLANTED EQUAL TO z DOT a
0LESS-THAN OR SLANTED EQUAL TO z DOT a q;0GREATER-THAN OR SLANTED EQUAL TO z DOT a o
0LESS-THAN OR APPROXIMATE;0GREATER-THAN OR APPROXIMATE;0LESS-THAN AND SINGLE-LINE NOT EQUAL TO
0GREATER-THAN AND SINGLE-LINE NOT EQUAL TO;0LESS-THAN AND NOT APPROXIMATE
0GREATER-THAN AND NOT APPROXIMATE;0LESS-THAN a i-LINE EQUAL a GREATER-THAN
0GREATER-THAN a i-LINE EQUAL a LESS-THAN;0LESS-THAN a SIMILAR OR EQUAL
0GREATER-THAN a SIMILAR OR EQUAL;0LESS-THAN a SIMILAR a GREATER-THAN
0GREATER-THAN a SIMILAR a LESS-THAN;0LESS-THAN a GREATER-THAN a i-LINE EQUAL
0GREATER-THAN a LESS-THAN a i-LINE EQUAL;0LESS-THAN a SLANTED EQUAL a GREATER-THAN a SLANTED EQUAL
0GREATER-THAN a SLANTED EQUAL a LESS-THAN a SLANTED EQUAL;0SLANTED EQUAL TO OR LESS-THAN
4GREATER-THAN;4LESS-THAN z DOT INSIDE;4GREATER-THAN z DOT INSIDE;0i-LINE EQUAL TO OR LESS-THAN
4GREATER-THAN;1SLANTED EQUAL TO OR LESS-THAN;5GREATER-THAN;0SIMILAR OR LESS-THAN;2GREATER-THAN
1a LESS-THAN a EQUALS s;2GREATER-THAN a EQUALS s;0i NESTED LESS-THAN;2GREATER-THAN
2LESS-THAN z UNDERBAR;0GREATER-THAN OVERLAPPING LESS-THAN;1BESIDE LESS-THAN
0LESS-THAN CLOSED BY CURVE;0GREATER-THAN CLOSED BY CURVE;0LESS-THAN CLOSED BY CURVE a SLANTED EQUAL
0GREATER-THAN CLOSED BY CURVE a SLANTED EQUAL;0tER THAN;0LARGER THAN;0tER THAN OR EQUAL TO
0LARGER THAN OR EQUAL TO;0EQUALS s z BUMPY a;0PRECEDES a SINGLE-LINE EQUALS s
0SUCCEEDS a SINGLE-LINE EQUALS s;0PRECEDES a SINGLE-LINE NOT EQUAL TO
0SUCCEEDS a SINGLE-LINE NOT EQUAL TO;0PRECEDES a EQUALS s;0SUCCEEDS a EQUALS s
0PRECEDES a NOT EQUAL TO;0SUCCEEDS a NOT EQUAL TO;0PRECEDES a ALMOST EQUAL TO
0SUCCEEDS a ALMOST EQUAL TO;0PRECEDES a NOT ALMOST EQUAL TO;0SUCCEEDS a NOT ALMOST EQUAL TO
0i PRECEDES;1SUCCEEDS;0SUBSET z DOT;0SUPERSET z DOT;0SUBSET z PLUS s c;0SUPERSET z PLUS s c
0SUBSET z MULTIPLICATION s c;0SUPERSET z MULTIPLICATION s c;0SUBSET OF OR EQUAL TO z DOT a
0SUPERSET OF OR EQUAL TO z DOT a;0SUBSET OF a EQUALS s;0SUPERSET OF a EQUALS s
0SUBSET OF a TILDE OPERATOR;0SUPERSET OF a TILDE OPERATOR;0SUBSET OF a ALMOST EQUAL TO
0SUPERSET OF a ALMOST EQUAL TO;0SUBSET OF a NOT EQUAL TO;0SUPERSET OF a NOT EQUAL TO
0SQUARE o OPEN BOX OPERATOR;1q OPEN BOX OPERATOR;0CLOSED SUBSET;1SUPERSET;1SUBSET OR EQUAL TO
1SUPERSET OR EQUAL TO;0SUBSET a SUPERSET;0SUPERSET a SUBSET;0SUBSET a SUBSET;0SUPERSET a SUPERSET
1BESIDE SUBSET;2AND JOINED BY DASH z SUBSET;0ELEMENT OF OPENING DOWNWARDS;0PITCHFORK z TEE TOP
0TRANSVERSAL INTERSECTION;0FORKING;0NONFORKING;0SHORT o TACK;1DOWN TACK;1UP TACK;0PERPENDICULAR z S
0y BAR TRIPLE q TURNSTILE;0i y BAR o TURNSTILE;0y BAR i o TURNSTILE;0i y BAR i o TURNSTILE
0LONG DASH FROM o MEMBER OF i y;0SHORT DOWN TACK z OVERBAR;1UP TACK z UNDERBAR;3a SHORT DOWN TACK
0i DOWN TACK;1UP TACK;1u NOT s;0REVERSED i u NOT s;0DOES NOT DIVIDE z REVERSED NEGATION SLASH
0y LINE z f a;4c;0DOWN TACK z f c;0PARALLEL z l u;2TILDE OPERATOR;0TRIPLE y BAR BINARY RELATION
3z l u;1COLON OPERATOR;1NESTED LESS-THAN;2GREATER-THAN;0i-LINE SLANTED LESS-THAN OR EQUAL TO
2GREATER-THAN OR EQUAL TO;0TRIPLE SOLIDUS BINARY RELATION;0LARGE TRIPLE y BAR OPERATOR
0i SOLIDUS OPERATOR;0WHITE y BAR;0N-ARY WHITE y BAR;0NORTH EAST WHITE b;1WEST WHITE b
0SOUTH EAST WHITE b;1WEST WHITE b;0o q WHITE b;0oWARDS d b;0UPWARDS d b;0DOWNWARDS d b
0NORTH EAST d b;1WEST d b;0SOUTH EAST d b;1WEST d b;0o q d b;0UP DOWN d b;0qWARDS b z TIP DOWNWARDS
4UPWARDS;0oWARDS b z TIP DOWNWARDS;4UPWARDS;0SQUARE z TOP HALF d;2BOTTOM HALF d
2UPPER q DIAGONAL HALF d;2LOWER o DIAGONAL HALF d;0DIAMOND z o HALF d;2q HALF d;2TOP HALF d
2BOTTOM HALF d;0DOTTED SQUARE;0d LARGE SQUARE;0WHITE LARGE SQUARE;0d VERY t SQUARE
0WHITE VERY t SQUARE;0d PENTAGON;0WHITE PENTAGON;1HEXAGON;0d HEXAGON;0l d HEXAGON;0d LARGE f
1MEDIUM DIAMOND;0WHITE MEDIUM DIAMOND;0d MEDIUM LOZENGE;0WHITE MEDIUM LOZENGE;0d t DIAMOND;2LOZENGE
0WHITE t LOZENGE;0d l ELLIPSE;0WHITE l ELLIPSE;0d y ELLIPSE;0WHITE y ELLIPSE;0o b z t f
0w oWARDS bS;0o b z fD PLUS;0LONG oWARDS SQUIGGLE b;0oWARDS TWO-HEADED b z y u;4i y u;3FROM BAR
2TRIPLE DASH b;1b z DOTTED STEM;3TAIL z y u;5i y u;1TWO-HEADED b z TAIL;5z y u;6i y u;1b THROUGH X
0WAVE b POINTING DIRECTLY o;0EQUALS s a oWARDS b;0REVERSE TILDE OPERATOR a oWARDS b
0oWARDS b a REVERSE ALMOST EQUAL TO;0qWARDS b THROUGH GREATER-THAN;3SUPERSET;0oWARDS QUADRUPLE b
0qWARDS QUADRUPLE b;0REVERSE TILDE OPERATOR a qWARDS b;0qWARDS b a REVERSE ALMOST EQUAL TO
0TILDE OPERATOR a oWARDS b;0oWARDS b a ALMOST EQUAL TO;3REVERSE TILDE OPERATOR
0qWARDS b a REVERSE TILDE OPERATOR;0DOWNWARDS x-HEADED ZIGZAG b;0SHORT SLANTED NORTH b
1BACKSLANTED SOUTH b;0WHITE MEDIUM STAR;0d t STAR;0WHITE t STAR;0d q-POINTING PENTAGON
0WHITE q-POINTING PENTAGON;0HEAVY LARGE f;1OVAL z OVAL INSIDE;1f z f INSIDE;1f;1fD SALTIRE
0SLANTED NORTH b z HOOKED HEAD;0BACKSLANTED SOUTH b z HOOKED TAIL;0SLANTED NORTH b z l TAIL
0BACKSLANTED SOUTH b z l TAIL;0BENT b POINTING DOWNWARDS THEN NORTH EAST
0SHORT BENT b POINTING DOWNWARDS THEN NORTH EAST;0oWARDS x-HEADED b;0UPWARDS x-HEADED b
0qWARDS x-HEADED b;0DOWNWARDS x-HEADED b;0o q x-HEADED b;0UP DOWN x-HEADED b;0NORTH WEST x-HEADED b
1EAST x-HEADED b;0SOUTH EAST x-HEADED b;1WEST x-HEADED b;0oWARDS x-HEADED DASHED b
0UPWARDS x-HEADED DASHED b;0qWARDS x-HEADED DASHED b;0DOWNWARDS x-HEADED DASHED b
0CLOCKWISE x-HEADED OPEN f b;0ANTICLOCKWISE x-HEADED OPEN f b;0oWARDS x-HEADED b TO BAR
0UPWARDS x-HEADED b TO BAR;0qWARDS x-HEADED b TO BAR;0DOWNWARDS x-HEADED b TO BAR
2B76=0NORTH WEST x-HEADED b TO BAR;1EAST x-HEADED b TO BAR;0SOUTH EAST x-HEADED b TO BAR
1WEST x-HEADED b TO BAR;0oWARDS x-HEADED b z i l u;0UPWARDS x-HEADED b z i l u
0qWARDS x-HEADED b z i l u;0DOWNWARDS x-HEADED b z i l u;0l TAB KEY;0y TAB KEY
0oWARDS x-HEADED b OVER qWARDS x-HEADED b;0UPWARDS x-HEADED b oWARDS OF DOWNWARDS x-HEADED b
0qWARDS x-HEADED b OVER oWARDS x-HEADED b;0DOWNWARDS x-HEADED b oWARDS OF UPWARDS x-HEADED b
0oWARDS x-HEADED PAIRED bS;0UPWARDS x-HEADED PAIRED bS;0qWARDS x-HEADED PAIRED bS
0DOWNWARDS x-HEADED PAIRED bS;0oWARDS d fD WHITE b;0UPWARDS d fD WHITE b;0qWARDS d fD WHITE b
0DOWNWARDS d fD WHITE b;0ANTICLOCKWISE x-HEADED q U-SHAPED b;2BOTTOM U-SHAPED b;2o U-SHAPED b
2TOP U-SHAPED b;0RETURN o;1q;0NEWLINE o;1q;0FOUR CORNER bS CIRCLING ANTICLOCKWISE;0qWARDS d b
2B97=0v FOR TYPE A ELECTRONICS;0w-D TOP-LIGHTED oWARDS EQUILATERAL bHEAD
1q-LIGHTED UPWARDS EQUILATERAL bHEAD;1TOP-LIGHTED qWARDS EQUILATERAL bHEAD
1o-LIGHTED DOWNWARDS EQUILATERAL bHEAD;0d oWARDS EQUILATERAL bHEAD;1UPWARDS EQUILATERAL bHEAD
1qWARDS EQUILATERAL bHEAD;1DOWNWARDS EQUILATERAL bHEAD;0DOWNWARDS x-HEADED b z LONG TIP oWARDS
6qWARDS;0UPWARDS x-HEADED b z LONG TIP oWARDS;6qWARDS;0oWARDS x-HEADED b z LONG TIP UPWARDS
0qWARDS x-HEADED b z LONG TIP UPWARDS;0oWARDS x-HEADED b z LONG TIP DOWNWARDS
0qWARDS x-HEADED b z LONG TIP DOWNWARDS;0d CURVED DOWNWARDS AND oWARDS b;4qWARDS b
2UPWARDS AND oWARDS b;4qWARDS b;2oWARDS AND UPWARDS b;2qWARDS AND UPWARDS b;2oWARDS AND DOWNWARDS b
2qWARDS AND DOWNWARDS b;0RIBBON b DOWN o;3q;2UP o;3q;2o UP;2q UP;2o DOWN;2q DOWN
0UPWARDS WHITE b FROM BAR z l BAR;0UP bHEAD IN A RECTANGLE BOX;0OVERLAPPING WHITE SQUARES
2AND d SQUARES;1d SQUARES;0BALLOT BOX z LIGHT X;0fD X;1BOLD X;0d SQUARE CENTRED;1DIAMOND CENTRED
0TURNED d PENTAGON;0l d OCTAGON;0d OCTAGON;1MEDIUM UP-POINTING x CENTRED;2DOWN-POINTING x CENTRED
2o-POINTING x CENTRED;2q-POINTING x CENTRED;0NEPTUNE k TWO;0TOP HALF d f;0BOTTOM HALF d f
0LIGHT FOUR POINTED d CUSP;0ROTATED LIGHT FOUR POINTED d CUSP;0WHITE FOUR POINTED CUSP
0ROTATED WHITE FOUR POINTED CUSP;0SQUARE POSITION INDICATOR;0UNCERTAINTY s;0GROUP MARK;0PLUTO k TWO
2w;2FOUR;2FIVE;0TRANSPLUTO;0PROSERPINA;0ASTRAEA;0HYGIEA;0PHOLUS;0NESSUS;0WHITE MOON SELENA
0d DIAMOND ON CROSS;0TRUE LIGHT MOON ARTA;0CUPIDO;0HADES;0ZEUS;0KRONOS;0APOLLON;0ADMETOS;0VULCANUS
0POSEIDON;0o HALF d STAR;0q HALF d STAR;0STAR z o HALF d;2q HALF d;0oWARDS TWO-HEADED b z x bHEADS
0UPWARDS TWO-HEADED b z x bHEADS;0qWARDS TWO-HEADED b z x bHEADS;0DOWNWARDS TWO-HEADED b z x bHEADS
0ERIS k ONE;2TWO;0SEDNA;0RUSSIAN ASTROLOGICAL v VIGINTILE;3NOVILE;3QUINTILE;3BINOVILE;3SENTAGON
3TREDECILE;0EQUALS s z INFINITY c;0UNITED v;0SEPARATED v;0iD v;0PASSED v;0REVERSED q ANGLE
0HELLSCHREIBER PAUSE v;0GLAGOLITIC e p AZU;3BUKY;3VEDE;3GLAGOLI;3DOBRO;3YESTU;3ZHIVETE;3DZELO
3ZEMLJA;3IZHE;3m IZHE;3I;3DJERVI;3KAKO;3LJUDIJE;3MYSLITE;3NASHI;3ONU;3POKOJI;3RITSI;3SLOVO;3TVRIDO
3UKU;3FRITU;3HERU;3OTU;3PE;3SHTA;3TSI;3CHRIVI;3SHA;3YERU;3YERI;3YATI;3SPIDERY HA;3YU;3t YUS;5z TAIL
3YO;3IOTATED t YUS;3BIG YUS;3IOTATED BIG YUS;3FITA;3IZHITSA;3SHTAPIC;3TROKUTASTI A
3LATINATE MYSLITE;3CAUDATE CHRIVI;1t p AZU;3BUKY;3VEDE;3GLAGOLI;3DOBRO;3YESTU;3ZHIVETE;3DZELO
3ZEMLJA;3IZHE;3m IZHE;3I;3DJERVI;3KAKO;3LJUDIJE;3MYSLITE;3NASHI;3ONU;3POKOJI;3RITSI;3SLOVO;3TVRIDO
3UKU;3FRITU;3HERU;3OTU;3PE;3SHTA;3TSI;3CHRIVI;3SHA;3YERU;3YERI;3YATI;3SPIDERY HA;3YU;3t YUS;5z TAIL
3YO;3IOTATED t YUS;3BIG YUS;3IOTATED BIG YUS;3FITA;3IZHITSA;3SHTAPIC;3TROKUTASTI A
3LATINATE MYSLITE;3CAUDATE CHRIVI;0LATIN e p L z i BAR;1t p L z i BAR;1e p L z MIDDLE TILDE;3P z u
3R z TAIL;1t p A z u;3T z DIAGONAL u;1e p H z DESCENDER;1t p H z DESCENDER;1e p K z DESCENDER
1t p K z DESCENDER;1e p Z z DESCENDER;1t p Z z DESCENDER;1e p ALPHA;3M z HOOK;3TURNED A;4ALPHA
1t p V z q HOOK;1e p W z HOOK;1t p W z HOOK;3V z CURL;1e p HALF H;1t p HALF H;3TAILLESS PHI
3E z NOTCH;3TURNED R z TAIL;3O z LOW RING INSIDE;1p t e TURNED E;1SUBSCRIPT t p J;0MODIFIER p e V
0LATIN e p S z SWASH TAIL;3Z z SWASH TAIL;0COPTIC e p ALFA;1t p ALFA;1e p VIDA;1t p VIDA;1e p GAMMA
1t p GAMMA;1e p DALDA;1t p DALDA;1e p EIE;1t p EIE;1e p SOU;1t p SOU;1e p ZATA;1t p ZATA;1e p HATE
1t p HATE;1e p THETHE;1t p THETHE;1e p IAUDA;1t p IAUDA;1e p KAPA;1t p KAPA;1e p LAULA;1t p LAULA
1e p MI;1t p MI;1e p NI;1t p NI;1e p KSI;1t p KSI;1e p O;1t p O;1e p PI;1t p PI;1e p RO;1t p RO
1e p SIMA;1t p SIMA;1e p TAU;1t p TAU;1e p UA;1t p UA;1e p FI;1t p FI;1e p KHI;1t p KHI;1e p PSI
1t p PSI;1e p OOU;1t p OOU;1e p DIALECT-P ALEF;1t p DIALECT-P ALEF;1e p OLD COPTIC AIN
1t p OLD COPTIC AIN;1e p CRYPTOGRAMMIC EIE;1t p CRYPTOGRAMMIC EIE;1e p DIALECT-P KAPA
1t p DIALECT-P KAPA;1e p DIALECT-P NI;1t p DIALECT-P NI;1e p CRYPTOGRAMMIC NI;1t p CRYPTOGRAMMIC NI
1e p OLD COPTIC OOU;1t p OLD COPTIC OOU;1e p SAMPI;1t p SAMPI;1e p CROSSED SHEI;1t p CROSSED SHEI
1e p OLD COPTIC SHEI;1t p OLD COPTIC SHEI;1e p OLD COPTIC ESH;1t p OLD COPTIC ESH
1e p AKHMIMIC KHEI;1t p AKHMIMIC KHEI;1e p DIALECT-P HORI;1t p DIALECT-P HORI;1e p OLD COPTIC HORI
1t p OLD COPTIC HORI;1e p OLD COPTIC HA;1t p OLD COPTIC HA;1e p L-SHAPED HA;1t p L-SHAPED HA
1e p OLD COPTIC HEI;1t p OLD COPTIC HEI;1e p OLD COPTIC HAT;1t p OLD COPTIC HAT
1e p OLD COPTIC GANGIA;1t p OLD COPTIC GANGIA;1e p OLD COPTIC DJA;1t p OLD COPTIC DJA
1e p OLD COPTIC SHIMA;1t p OLD COPTIC SHIMA;1e p OLD NUBIAN SHIMA;1t p OLD NUBIAN SHIMA
1e p OLD NUBIAN NGI;1t p OLD NUBIAN NGI;1e p OLD NUBIAN NYI;1t p OLD NUBIAN NYI;1e p OLD NUBIAN WAU
1t p OLD NUBIAN WAU;1v KAI;2MI RO;2PI RO;2STAUROS;2TAU RO;2KHI RO;2SHIMA SIMA
1e p CRYPTOGRAMMIC SHEI;1t p CRYPTOGRAMMIC SHEI;1e p CRYPTOGRAMMIC GANGIA;1t p CRYPTOGRAMMIC GANGIA
1COMBINING NI a;2SPIRITUS ASPER;3LENIS;1e p BOHAIRIC KHEI;1t p BOHAIRIC KHEI
2CF9=1OLD NUBIAN FULL STOP;3DIRECT QUESTION MARK;3INDIRECT QUESTION MARK;3VERSE DIVIDER
1FRACTION ONE HALF;1FULL STOP;1MORPHOLOGICAL DIVIDER;0GEORGIAN t p AN;3BAN;3GAN;3DON;3EN;3VIN;3ZEN
3TAN;3IN;3KAN;3LAS;3MAN;3NAR;3ON;3PAR;3ZHAR;3RAE;3SAN;3TAR;3UN;3PHAR;3KHAR;3GHAN;3QAR;3SHIN;3CHIN
3CAN;3JIL;3CIL;3CHAR;3XAN;3JHAN;3HAE;3HE;3HIE;3WE;3HAR;3HOE;2D27=3YN;2D2D=3AEN;2D30=0TIFINAGH p YA
2YAB;2YABH;2YAG;2YAGHH;2BERBER ACADEMY YAJ;2YAJ;2YAD;2YADH;2YADD;2YADDH;2YEY;2YAF;2YAK;2TUAREG YAK
2YAKHH;2YAH;2BERBER ACADEMY YAH;2TUAREG YAH;2YAHH;2YAA;2YAKH;2TUAREG YAKH;2YAQ;2TUAREG YAQ;2YI
2YAZH;2AHAGGAR YAZH;2TUAREG YAZH;2YAL;2YAM;2YAN;2TUAREG YAGN;3YANG;2YAP;2YU;2YAR;2YARR;2YAGH
2TUAREG YAGH;2AYER YAGH;2YAS;2YASS;2YASH;2YAT;2YATH;2YACH;2YATT;2YAV;2YAW;2YAY;2YAZ;2TAWELLEMET YAZ
2YAZZ;2YE;2YO;2D6F=1MODIFIER p LABIALIZATION MARK;1SEPARATOR MARK;2D7F=1CONSONANT JOINER
0ETHIOPIC SYLLABLE LOA;2MOA;2ROA;2SOA;2SHOA;2BOA;2TOA;2COA;2NOA;2NYOA;2GLOTTAL OA;2ZOA;2DOA;2DDOA
2JOA;2THOA;2CHOA;2PHOA;2POA;2GGWA;2GGWI;2GGWEE;2GGWE;2DA0=2SSA;2SSU;2SSI;2SSAA;2SSEE;2SSE;2SSO
2DA8=2CCA;2CCU;2CCI;2CCAA;2CCEE;2CCE;2CCO;2DB0=2ZZA;2ZZU;2ZZI;2ZZAA;2ZZEE;2ZZE;2ZZO;2DB8=2CCHA
2CCHU;2CCHI;2CCHAA;2CCHEE;2CCHE;2CCHO;2DC0=2QYA;2QYU;2QYI;2QYAA;2QYEE;2QYE;2QYO;2DC8=2KYA;2KYU;2KYI
2KYAA;2KYEE;2KYE;2KYO;2DD0=2XYA;2XYU;2XYI;2XYAA;2XYEE;2XYE;2XYO;2DD8=2GYA;2GYU;2GYI;2GYAA;2GYEE
2GYE;2GYO;2DE0=0COMBINING CYRILLIC p BE;3VE;3GHE;3DE;3ZHE;3ZE;3KA;3EL;3EM;3EN;3O;3PE;3ER;3ES;3TE
3HA;3TSE;3CHE;3SHA;3SHCHA;3FITA;3ES-TE;3A;3IE;3DJERV;3MONOGRAPH UK;3YAT;3YU;3IOTIFIED A;3LITTLE YUS
3BIG YUS;3IOTIFIED BIG YUS;0q ANGLE SUBSTITUTION MARKER;2DOTTED SUBSTITUTION MARKER
0o SUBSTITUTION BRACKET;0q SUBSTITUTION BRACKET;0o DOTTED SUBSTITUTION BRACKET
0q DOTTED SUBSTITUTION BRACKET;0RAISED INTERPOLATION MARKER;1DOTTED INTERPOLATION MARKER
0DOTTED TRANSPOSITION MARKER;0o TRANSPOSITION BRACKET;0q TRANSPOSITION BRACKET;0RAISED SQUARE
0o RAISED OMISSION BRACKET;0q RAISED OMISSION BRACKET;0EDITORIAL CORONIS;0PARAGRAPHOS
0FORKED PARAGRAPHOS;0REVERSED FORKED PARAGRAPHOS;0HYPODIASTOLE;0DOTTED OBELOS;0DOWNWARDS ANCORA
0UPWARDS ANCORA;0DOTTED q-POINTING ANGLE;0i OBLIQUE HYPHEN;0INVERTED INTERROBANG;0PALM BRANCH
0HYPHEN z DIAERESIS;0TILDE z RING a;0o LOW PARAPHRASE BRACKET;0q LOW PARAPHRASE BRACKET
0TILDE z DOT a;3c;0o y BAR z QUILL;0q y BAR z QUILL;0TOP o HALF BRACKET;1q HALF BRACKET
0BOTTOM o HALF BRACKET;1q HALF BRACKET;0o SIDEWAYS U BRACKET;0q SIDEWAYS U BRACKET;0o i PARENTHESIS
0q i PARENTHESIS;0TWO h OVER ONE DOT PUNCTUATION;0ONE DOT OVER TWO h PUNCTUATION
0SQUARED FOUR DOT PUNCTUATION;0FIVE DOT MARK;0REVERSED QUESTION MARK;0y TILDE;0RING POINT
0WORD SEPARATOR MIDDLE DOT;0TURNED COMMA;0RAISED DOT;1COMMA;0TURNED SEMICOLON;0DAGGER z o GUARD
2q GUARD;0TURNED DAGGER;0TOP HALF SECTION s;0TWO-EM DASH;0w-EM DASH;0STENOGRAPHIC FULL STOP
0y SIX h;0WIGGLY y LINE;0CAPITULUM;0i HYPHEN;0REVERSED COMMA;0i LOW-REVERSED-9 QUOTATION MARK
0DASH z o UPTURN;0i SUSPENSION MARK;0INVERTED LOW KAVYKA;3z KAVYKA a;0LOW KAVYKA;2z DOT
0i STACKED COMMA;0DOTTED SOLIDUS;0TRIPLE DAGGER;0MEDIEVAL COMMA;0PARAGRAPHUS MARK
0PUNCTUS ELEVATUS MARK;0CORNISH VERSE DIVIDER;0CROSS PATTY z q CROSSBAR;3o CROSSBAR
0TIRONIAN s e ET;0MEDIEVAL EXCLAMATION MARK;1QUESTION MARK;0o SQUARE BRACKET z u
0q SQUARE BRACKET z u;0o SQUARE BRACKET z i u;0q SQUARE BRACKET z i u;0TOP HALF o PARENTHESIS
2q PARENTHESIS;0BOTTOM HALF o PARENTHESIS;2q PARENTHESIS;0OBLIQUE HYPHEN;2E80=0CJK RADICAL REPEAT
2CLIFF;2SECOND ONE;3TWO;3w;2PERSON;2BOX;2TABLE;2KNIFE ONE;3TWO;2DIVINATION;2SEAL;2t ONE;3TWO
2LAME ONE;3TWO;3w;3FOUR;2SNAKE;2THREAD;2SNOUT ONE;3TWO;2HEART ONE;3TWO;2HAND;2RAP;2E9B=2CHOKE;2SUN
2MOON;2DEATH;2MOTHER;2CIVILIAN;2WATER ONE;3TWO;2FIRE;2PAW ONE;3TWO;2SIMPLIFIED HALF TREE TRUNK;2COW
2DOG;2JADE;2BOLT OF CLOTH;2EYE;2SPIRIT ONE;3TWO;2BAMBOO;2SILK;2C-SIMPLIFIED SILK;2NET ONE;3TWO;3w
3FOUR;2MESH;2SHEEP;2RAM;2EWE;2OLD;2BRUSH ONE;3TWO;2MEAT;2MORTAR;2GRASS ONE;3TWO;3w;2TIGER;2CLOTHES
2WEST ONE;3TWO;2C-SIMPLIFIED SEE;2SIMPLIFIED HORN;2HORN;2C-SIMPLIFIED SPEECH;3SHELL;2FOOT
2C-SIMPLIFIED CART;2SIMPLIFIED WALK;2WALK ONE;3TWO;2CITY;2C-SIMPLIFIED GOLD;2LONG ONE;3TWO
2C-SIMPLIFIED LONG;3GATE;2MOUND ONE;3TWO;2RAIN;2BLUE;2C-SIMPLIFIED TANNED LEATHER;3LEAF;3WIND;3FLY
2EAT ONE;3TWO;3w;2C-SIMPLIFIED EAT;2HEAD;2C-SIMPLIFIED HORSE;2BONE;2GHOST;2C-SIMPLIFIED FISH;3BIRD
3SALT;2SIMPLIFIED WHEAT;3YELLOW;2C-SIMPLIFIED FROG;2J-SIMPLIFIED EVEN;2C-SIMPLIFIED EVEN
2J-SIMPLIFIED TOOTH;2C-SIMPLIFIED TOOTH;2J-SIMPLIFIED DRAGON;2C-SIMPLIFIED DRAGON;2TURTLE
2J-SIMPLIFIED TURTLE;2C-SIMPLIFIED TURTLE;2F00=0KANGXI RADICAL ONE;2LINE;2DOT;2SLASH;2SECOND;2HOOK
2TWO;2LID;2MAN;2LEGS;2ENTER;2EIGHT;2DOWN BOX;2COVER;2ICE;2TABLE;2OPEN BOX;2KNIFE;2POWER;2WRAP
2SPOON;2q OPEN BOX;2HIDING ENCLOSURE;2TEN;2DIVINATION;2SEAL;2CLIFF;2PRIVATE;2AGAIN;2MOUTH
2ENCLOSURE;2EARTH;2SCHOLAR;2GO;3SLOWLY;2EVENING;2BIG;2WOMAN;2CHILD;2ROOF;2INCH;2t;2LAME;2CORPSE
2SPROUT;2MOUNTAIN;2RIVER;2WORK;2ONESELF;2TURBAN;2DRY;2SHORT THREAD;2DOTTED CLIFF;2LONG STRIDE
2TWO HANDS;2SHOOT;2BOW;2SNOUT;2BRISTLE;2STEP;2HEART;2HALBERD;2DOOR;2HAND;2BRANCH;2RAP;2SCRIPT
2DIPPER;2AXE;2SQUARE;2NOT;2SUN;2SAY;2MOON;2TREE;2LACK;2STOP;2DEATH;2WEAPON;2DO NOT;2COMPARE;2FUR
2CLAN;2STEAM;2WATER;2FIRE;2CLAW;2FATHER;2i X;2HALF TREE TRUNK;2SLICE;2FANG;2COW;2DOG;2PROFOUND
2JADE;2MELON;2TILE;2SWEET;2LIFE;2USE;2FIELD;2BOLT OF CLOTH;2SICKNESS;2DOTTED TENT;2WHITE;2SKIN
2DISH;2EYE;2SPEAR;2b;2STONE;2SPIRIT;2TRACK;2GRAIN;2CAVE;2STAND;2BAMBOO;2RICE;2SILK;2JAR;2NET;2SHEEP
2FEATHER;2OLD;2AND;2PLOW;2EAR;2BRUSH;2MEAT;2MINISTER;2SELF;2ARRIVE;2MORTAR;2TONGUE;2OPPOSE;2BOAT
2STOPPING;2COLOR;2GRASS;2TIGER;2INSECT;2BLOOD;2WALK ENCLOSURE;2CLOTHES;2WEST;2SEE;2HORN;2SPEECH
2VALLEY;2BEAN;2PIG;2BADGER;2SHELL;2RED;2RUN;2FOOT;2BODY;2CART;2BITTER;2MORNING;2WALK;2CITY;2WINE
2DISTINGUISH;2VILLAGE;2GOLD;2LONG;2GATE;2MOUND;2SLAVE;2SHORT TAILED BIRD;2RAIN;2BLUE;2WRONG;2FACE
2LEATHER;2TANNED LEATHER;2LEEK;2SOUND;2LEAF;2WIND;2FLY;2EAT;2HEAD;2FRAGRANT;2HORSE;2BONE;2TALL
2HAIR;2FIGHT;2SACRIFICIAL WINE;2CAULDRON;2GHOST;2FISH;2BIRD;2SALT;2DEER;2WHEAT;2HEMP;2YELLOW
2MILLET;2d;2EMBROIDERY;2FROG;2TRIPOD;2DRUM;2RAT;2NOSE;2EVEN;2TOOTH;2DRAGON;2TURTLE;2FLUTE
2FF0=0IDEOGRAPHIC DESCRIPTION CHARACTER o TO q;3a TO c;3o TO MIDDLE AND q;3a TO MIDDLE AND c
3FULL SURROUND;3SURROUND FROM a;5c;5o;5UPPER o;6q;5LOWER o;3OVERLAID"

end TrustWeb.Text.CharacterName
