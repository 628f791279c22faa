/-!
# Names of notations and pictures

The code points from 1D000 on, in hexadecimal: notations, mathematical letters, pictures and tags.
`Entry.read` tells how the entries are written.
-/

namespace TrustWeb.Text.CharacterName

/-- The names of code points from 1D000 on. -/
def pictures : String :=
"1D000=0BYZANTINE MUSICAL v PSILI;3DASEIA;3PERISPOMENI;3OXEIA EKFONITIKON;4DIPLI;3VAREIA EKFONITIKON
4DIPLI;3KATHISTI;3SYRMATIKI;3PARAKLITIKI;3YPOKRISIS;4DIPLI;3KREMASTI;3APESO EKFONITIKON
3EXO EKFONITIKON;3TELEIA;3KENTIMATA;3APOSTROFOS;4DIPLI;3SYNEVMA;3THITA;3OLIGON ARCHAION
3GORGON ARCHAION;3PSILON;3CHAMILON;3VATHY;3ISON ARCHAION;3KENTIMA ARCHAION;3KENTIMATA ARCHAION
3SAXIMATA;3PARICHON;3STAVROS APODEXIA;3OXEIAI ARCHAION;3VAREIAI ARCHAION;3APODERMA ARCHAION
3APOTHEMA;3KLASMA;3REVMA;3PIASMA ARCHAION;3TINAGMA;3ANATRICHISMA;3SEISMA;3SYNAGMA ARCHAION
4META STAVROU;3OYRANISMA ARCHAION;3THEMA;3LEMOI;3DYO;3TRIA;3TESSERA;3KRATIMATA;3APESO EXO NEO
3FTHORA ARCHAION;3IMIFTHORA;3TROMIKON ARCHAION;3KATAVA TROMIKON;3PELASTON;3PSIFISTON;3KONTEVMA
3CHOREVMA ARCHAION;3RAPISMA;3PARAKALESMA ARCHAION;3PARAKLITIKI ARCHAION;3ICHADIN;3NANA;3PETASMA
3KONTEVMA ALLO;3TROMIKON ALLO;3STRAGGISMATA;3GRONTHISMATA;3ISON NEO;3OLIGON NEO;3OXEIA NEO;3PETASTI
3KOUFISMA;3PETASTOKOUFISMA;3KRATIMOKOUFISMA;3PELASTON NEO;3KENTIMATA NEO ANO;3KENTIMA NEO ANO
3YPSILI;3APOSTROFOS NEO;3APOSTROFOI SYNDESMOS NEO;3YPORROI;3KRATIMOYPORROON;3ELAFRON;3CHAMILI
3MIKRON ISON;3VAREIA NEO;3PIASMA NEO;3PSIFISTON NEO;3OMALON;3ANTIKENOMA;3LYGISMA;3PARAKLITIKI NEO
3PARAKALESMA NEO;3ETERON PARAKALESMA;3KYLISMA;3ANTIKENOKYLISMA;3TROMIKON NEO;3EKSTREPTON
3SYNAGMA NEO;3SYRMA;3CHOREVMA NEO;3EPEGERMA;3SEISMA NEO;3XIRON KLASMA;3TROMIKOPSIFISTON
3PSIFISTOLYGISMA;3TROMIKOLYGISMA;3TROMIKOPARAKALESMA;3PSIFISTOPARAKALESMA;3TROMIKOSYNAGMA
3PSIFISTOSYNAGMA;3GORGOSYNTHETON;3ARGOSYNTHETON;3ETERON ARGOSYNTHETON;3OYRANISMA NEO
3THEMATISMOS ESO;4EXO;3THEMA APLOUN;3THES KAI APOTHES;3KATAVASMA;3ENDOFONON;3YFEN KATO;4ANO
3STAVROS;3KLASMA ANO;3DIPLI ARCHAION;3KRATIMA ARCHAION;4ALLO;4NEO;3APODERMA NEO;3APLI;3DIPLI
3TRIPLI;3TETRAPLI;3KORONIS;3LEIMMA ENOS CHRONOU;4DYO CHRONON;4TRION CHRONON;4TESSARON CHRONON
4IMISEOS CHRONOU;3GORGON NEO ANO;4PARESTIGMENON ARISTERA;5DEXIA;3DIGORGON
4PARESTIGMENON ARISTERA KATO;6ANO;5DEXIA;3TRIGORGON;3ARGON;3IMIDIARGON;3DIARGON;3AGOGI POLI ARGI
4ARGOTERI;4ARGI;4METRIA;4MESI;4GORGI;4GORGOTERI;4POLI GORGI;3MARTYRIA PROTOS ICHOS
4ALLI PROTOS ICHOS;4DEYTEROS ICHOS;4ALLI DEYTEROS ICHOS;4TRITOS ICHOS;4TRIFONIAS;4TETARTOS ICHOS
5LEGETOS ICHOS;4LEGETOS ICHOS;4PLAGIOS ICHOS;3ISAKIA TELOUS ICHIMATOS;3APOSTROFOI TELOUS ICHIMATOS
3FANEROSIS TETRAFONIAS;4MONOFONIAS;4DIFONIAS;3MARTYRIA VARYS ICHOS;4PROTOVARYS ICHOS
4PLAGIOS TETARTOS ICHOS;3GORTHMIKON N APLOUN;5DIPLOUN;3ENARXIS KAI FTHORA VOU;3IMIFONON;3IMIFTHORON
3FTHORA ARCHAION DEYTEROU ICHOU;4DIATONIKI PA;5NANA;4NAOS ICHOS;4DIATONIKI DI;4SKLIRON DIATONON DI
4DIATONIKI KE;5ZO;5NI KATO;6ANO;4MALAKON CHROMA DIFONIAS;6MONOFONIAS;3FHTORA SKLIRON CHROMA VASIS
3FTHORA SKLIRON CHROMA SYNAFI;4NENANO;3CHROA ZYGOS;4KLITON;4SPATHI;3FTHORA I YFESIS TETARTIMORION
4ENARMONIOS ANTIFONIA;3YFESIS TRITIMORION;3DIESIS TRITIMORION;4TETARTIMORION;4APLI DYO DODEKATA
4MONOGRAMMOS TESSERA DODEKATA;4DIGRAMMOS EX DODEKATA;4TRIGRAMMOS OKTO DODEKATA
3YFESIS APLI DYO DODEKATA;4MONOGRAMMOS TESSERA DODEKATA;4DIGRAMMOS EX DODEKATA
4TRIGRAMMOS OKTO DODEKATA;3GENIKI DIESIS;4YFESIS;3DIASTOLI APLI MIKRI;5MEGALI;4DIPLI;4THESEOS
3SIMANSIS THESEOS;5DISIMOU;5TRISIMOU;5TETRASIMOU;4ARSEOS;5DISIMOU;5TRISIMOU;5TETRASIMOU
3DIGRAMMA GG;3DIFTOGGOS OU;3STIGMA;3ARKTIKO PA;4VOU;4GA;4DI;4KE;4ZO;4NI;3KENTIMATA NEO MESO
3KENTIMA NEO MESO;3KENTIMATA NEO KATO;3KENTIMA NEO KATO;3KLASMA KATO;3GORGON NEO KATO
1D100=0MUSICAL v SINGLE BARLINE;2i BARLINE;2j BARLINE;2REVERSE j BARLINE;2DASHED BARLINE
2SHORT BARLINE;2o REPEAT s;2q REPEAT s;2REPEAT h;2DAL SEGNO;2DA CAPO;2SEGNO;2CODA
2REPEATED FIGURE-1;3FIGURE-2;3FIGURE-3;2FERMATA;3c;2BREATH MARK;2CAESURA;2BRACE;2BRACKET
2ONE-LINE STAFF;2TWO-LINE STAFF;2w-LINE STAFF;2FOUR-LINE STAFF;2FIVE-LINE STAFF;2SIX-LINE STAFF
2SIX-STRING FRETBOARD;2FOUR-STRING FRETBOARD;2G CLEF;4OTTAVA ALTA;5BASSA;2C CLEF;2F CLEF
4OTTAVA ALTA;5BASSA;2DRUM CLEF-1;3CLEF-2;1D129=2MULTIPLE MEASURE REST;2i SHARP;3FLAT;2FLAT UP;3DOWN
2NATURAL UP;3DOWN;2SHARP UP;3DOWN;2QUARTER TONE SHARP;4FLAT;2COMMON TIME;2CUT TIME;2OTTAVA ALTA
3BASSA;2QUINDICESIMA ALTA;3BASSA;2MULTI REST;2WHOLE REST;2HALF REST;2QUARTER REST;2EIGHTH REST
2SIXTEENTH REST;2THIRTY-SECOND REST;2SIXTY-FOURTH REST;2ONE HUNDRED TWENTY-EIGHTH REST;2X NOTEHEAD
2PLUS NOTEHEAD;2f X NOTEHEAD;2SQUARE NOTEHEAD WHITE;4d;2x NOTEHEAD UP WHITE;5d;4o WHITE;5d;4q WHITE
5d;4DOWN WHITE;5d;4UP q WHITE;6d;2MOON NOTEHEAD WHITE;4d;2x-ROUND NOTEHEAD DOWN WHITE;5d
2PARENTHESIS NOTEHEAD;2VOID NOTEHEAD;2NOTEHEAD d;2NULL NOTEHEAD;2CLUSTER NOTEHEAD WHITE;4d;2BREVE
2WHOLE NOTE;2HALF NOTE;2QUARTER NOTE;2EIGHTH NOTE;2SIXTEENTH NOTE;2THIRTY-SECOND NOTE
2SIXTY-FOURTH NOTE;2ONE HUNDRED TWENTY-EIGHTH NOTE;2COMBINING STEM;3SPRECHGESANG STEM;3TREMOLO-1
3TREMOLO-2;3TREMOLO-3;2FINGERED TREMOLO-1;3TREMOLO-2;3TREMOLO-3;2COMBINING AUGMENTATION DOT;3FLAG-1
3FLAG-2;3FLAG-3;3FLAG-4;3FLAG-5;2BEGIN BEAM;2END BEAM;2BEGIN TIE;2END TIE;2BEGIN SLUR;2END SLUR
2BEGIN PHRASE;2END PHRASE;2COMBINING ACCENT;3STACCATO;3TENUTO;3STACCATISSIMO;3MARCATO
3MARCATO-STACCATO;3ACCENT-STACCATO;3LOURE;2ARPEGGIATO UP;3DOWN;2COMBINING DOIT;3RIP;3FLIP;3SMEAR
3BEND;3i TONGUE;3TRIPLE TONGUE;2RINFORZANDO;2SUBITO;2Z;2PIANO;2MEZZO;2FORTE;2CRESCENDO;2DECRESCENDO
2GRACE NOTE SLASH;4NO SLASH;2TR;2TURN;2INVERTED TURN;2TURN SLASH;3UP;2ORNAMENT u-1;3u-2;3u-3;3u-4
3u-5;3u-6;3u-7;3u-8;3u-9;3u-10;3u-11;2HAUPTSTIMME;2NEBENSTIMME;2END OF STIMME;2DEGREE SLASH
2COMBINING DOWN BOW;3UP BOW;3HARMONIC;3SNAP PIZZICATO;2PEDAL MARK;3UP MARK;2HALF PEDAL MARK
2GLISSANDO UP;3DOWN;2z FINGERNAILS;2DAMP;3ALL;2MAXIMA;2LONGA;2BREVIS;2SEMIBREVIS WHITE;3d;2MINIMA
3d;2SEMIMINIMA WHITE;3d;2FUSA WHITE;3d;2LONGA PERFECTA REST;3IMPERFECTA REST;2BREVIS REST
2SEMIBREVIS REST;2MINIMA REST;2SEMIMINIMA REST;2TEMPUS PERFECTUM CUM PROLATIONE PERFECTA
6IMPERFECTA;6PERFECTA DIMINUTION-1;3IMPERFECTUM CUM PROLATIONE PERFECTA;6IMPERFECTA;7DIMINUTION-1
7DIMINUTION-2;7DIMINUTION-3;2CROIX;2GREGORIAN C CLEF;3F CLEF;2SQUARE B;2VIRGA;2PODATUS;2CLIVIS
2SCANDICUS;2CLIMACUS;2TORCULUS;2PORRECTUS;3FLEXUS;2SCANDICUS FLEXUS;2TORCULUS RESUPINUS
2PES SUBPUNCTIS;2KIEVAN C CLEF;3END OF PIECE;3j NOTE;3RECITATIVE MARK;3WHOLE NOTE;3HALF NOTE
3QUARTER NOTE STEM DOWN;6UP;3EIGHTH NOTE STEM DOWN;6UP;3FLAT s;2SORI;2KORON
1D200=0GREEK VOCAL NOTATION v-1;3v-2;3v-3;3v-4;3v-5;3v-6;3v-7;3v-8;3v-9;3v-10;3v-11;3v-12;3v-13
3v-14;3v-15;3v-16;3v-17;3v-18;3v-19;3v-20;3v-21;3v-22;3v-23;3v-24;3v-50;3v-51;3v-52;3v-53;3v-54
1INSTRUMENTAL NOTATION v-1;3v-2;3v-4;3v-5;3v-7;3v-8;3v-11;3v-12;3v-13;3v-14;3v-17;3v-18;3v-19;3v-23
3v-24;3v-25;3v-26;3v-27;3v-29;3v-30;3v-32;3v-36;3v-37;3v-38;3v-39;3v-40;3v-42;3v-43;3v-45;3v-47
3v-48;3v-49;3v-50;3v-51;3v-52;3v-53;3v-54;0COMBINING GREEK MUSICAL TRISEME;3TETRASEME;3PENTASEME
0GREEK MUSICAL LEIMMA;1D2E0=0MAYAN NUMERAL ZERO;2ONE;2TWO;2w;2FOUR;2FIVE;2SIX;2SEVEN;2EIGHT;2NINE
2TEN;2ELEVEN;2TWELVE;2THIRTEEN;2FOURTEEN;2FIFTEEN;2SIXTEEN;2SEVENTEEN;2EIGHTEEN;2NINETEEN
1D300=0MONOGRAM FOR EARTH;0DIGRAM FOR HEAVENLY EARTH;2HUMAN EARTH;2EARTHLY HEAVEN;3HUMAN;2EARTH
0TETRAGRAM FOR CENTRE;2FULL f;2MIRED;2BARRIER;2KEEPING t;2CONTRARIETY;2ASCENT;2OPPOSITION
2BRANCHING OUT;2DEFECTIVENESS OR DISTORTION;2DIVERGENCE;2YOUTHFULNESS;2INCREASE;2PENETRATION;2REACH
2CONTACT;2HOLDING BACK;2WAITING;2FOLLOWING;2ADVANCE;2RELEASE;2RESISTANCE;2EASE;2JOY;2CONTENTION
2ENDEAVOUR;2DUTIES;2CHANGE;2DECISIVENESS;2BOLD RESOLUTION;2PACKING;2LEGION;2CLOSENESS;2KINSHIP
2GATHERING;2STRENGTH;2PURITY;2FULLNESS;2RESIDENCE;2LAW OR MODEL;2RESPONSE;2GOING TO MEET
2ENCOUNTERS;2STOVE;2GREATNESS;2ENLARGEMENT;2PATTERN;2RITUAL;2FLIGHT;2VASTNESS OR WASTING;2CONSTANCY
2MEASURE;2ETERNITY;2UNITY;2DIMINISHMENT;2CLOSED MOUTH;2GUARDEDNESS;2GATHERING IN;2MASSING
2ACCUMULATION;2EMBELLISHMENT;2DOUBT;2WATCH;2SINKING;2INNER;2DEPARTURE;2DARKENING;2DIMMING
2EXHAUSTION;2SEVERANCE;2STOPPAGE;2HARDNESS;2COMPLETION;2CLOSURE;2FAILURE;2AGGRAVATION;2COMPLIANCE
2ON THE VERGE;2DIFFICULTIES;2LABOURING;2FOSTERING;1D360=0COUNTING ROD UNIT DIGIT ONE;4TWO;4w;4FOUR
4FIVE;4SIX;4SEVEN;4EIGHT;4NINE;2TENS DIGIT ONE;4TWO;4w;4FOUR;4FIVE;4SIX;4SEVEN;4EIGHT;4NINE
0IDEOGRAPHIC TALLY MARK ONE;3TWO;3w;3FOUR;3FIVE;0TALLY MARK ONE;2FIVE;1D400=0MATHEMATICAL BOLD e A
3B;3C;3D;3E;3F;3G;3H;3I;3J;3K;3L;3M;3N;3O;3P;3Q;3R;3S;3T;3U;3V;3W;3X;3Y;3Z;2t A;3B;3C;3D;3E;3F;3G
3H;3I;3J;3K;3L;3M;3N;3O;3P;3Q;3R;3S;3T;3U;3V;3W;3X;3Y;3Z;1ITALIC e A;3B;3C;3D;3E;3F;3G;3H;3I;3J;3K
3L;3M;3N;3O;3P;3Q;3R;3S;3T;3U;3V;3W;3X;3Y;3Z;2t A;3B;3C;3D;3E;3F;3G;1D456=3I;3J;3K;3L;3M;3N;3O;3P
3Q;3R;3S;3T;3U;3V;3W;3X;3Y;3Z;1BOLD ITALIC e A;4B;4C;4D;4E;4F;4G;4H;4I;4J;4K;4L;4M;4N;4O;4P;4Q;4R
4S;4T;4U;4V;4W;4X;4Y;4Z;3t A;4B;4C;4D;4E;4F;4G;4H;4I;4J;4K;4L;4M;4N;4O;4P;4Q;4R;4S;4T;4U;4V;4W;4X
4Y;4Z;1SCRIPT e A;1D49E=3C;3D;1D4A2=3G;1D4A5=3J;3K;1D4A9=3N;3O;3P;3Q;1D4AE=3S;3T;3U;3V;3W;3X;3Y;3Z
2t A;3B;3C;3D;1D4BB=3F;1D4BD=3H;3I;3J;3K;3L;3M;3N;1D4C5=3P;3Q;3R;3S;3T;3U;3V;3W;3X;3Y;3Z
1BOLD SCRIPT e A;4B;4C;4D;4E;4F;4G;4H;4I;4J;4K;4L;4M;4N;4O;4P;4Q;4R;4S;4T;4U;4V;4W;4X;4Y;4Z;3t A;4B
4C;4D;4E;4F;4G;4H;4I;4J;4K;4L;4M;4N;4O;4P;4Q;4R;4S;4T;4U;4V;4W;4X;4Y;4Z;1FRAKTUR e A;3B;1D507=3D;3E
3F;3G;1D50D=3J;3K;3L;3M;3N;3O;3P;3Q;1D516=3S;3T;3U;3V;3W;3X;3Y;1D51E=2t A;3B;3C;3D;3E;3F;3G;3H;3I
3J;3K;3L;3M;3N;3O;3P;3Q;3R;3S;3T;3U;3V;3W;3X;3Y;3Z;1i-STRUCK e A;3B;1D53B=3D;3E;3F;3G;1D540=3I;3J
3K;3L;3M;1D546=3O;1D54A=3S;3T;3U;3V;3W;3X;3Y;1D552=2t A;3B;3C;3D;3E;3F;3G;3H;3I;3J;3K;3L;3M;3N;3O
3P;3Q;3R;3S;3T;3U;3V;3W;3X;3Y;3Z;1BOLD FRAKTUR e A;4B;4C;4D;4E;4F;4G;4H;4I;4J;4K;4L;4M;4N;4O;4P;4Q
4R;4S;4T;4U;4V;4W;4X;4Y;4Z;3t A;4B;4C;4D;4E;4F;4G;4H;4I;4J;4K;4L;4M;4N;4O;4P;4Q;4R;4S;4T;4U;4V;4W
4X;4Y;4Z;1SANS-SERIF e A;3B;3C;3D;3E;3F;3G;3H;3I;3J;3K;3L;3M;3N;3O;3P;3Q;3R;3S;3T;3U;3V;3W;3X;3Y;3Z
2t A;3B;3C;3D;3E;3F;3G;3H;3I;3J;3K;3L;3M;3N;3O;3P;3Q;3R;3S;3T;3U;3V;3W;3X;3Y;3Z;2BOLD e A;4B;4C;4D
4E;4F;4G;4H;4I;4J;4K;4L;4M;4N;4O;4P;4Q;4R;4S;4T;4U;4V;4W;4X;4Y;4Z;3t A;4B;4C;4D;4E;4F;4G;4H;4I;4J
4K;4L;4M;4N;4O;4P;4Q;4R;4S;4T;4U;4V;4W;4X;4Y;4Z;2ITALIC e A;4B;4C;4D;4E;4F;4G;4H;4I;4J;4K;4L;4M;4N
4O;4P;4Q;4R;4S;4T;4U;4V;4W;4X;4Y;4Z;3t A;4B;4C;4D;4E;4F;4G;4H;4I;4J;4K;4L;4M;4N;4O;4P;4Q;4R;4S;4T
4U;4V;4W;4X;4Y;4Z;2BOLD ITALIC e A;5B;5C;5D;5E;5F;5G;5H;5I;5J;5K;5L;5M;5N;5O;5P;5Q;5R;5S;5T;5U;5V
5W;5X;5Y;5Z;4t A;5B;5C;5D;5E;5F;5G;5H;5I;5J;5K;5L;5M;5N;5O;5P;5Q;5R;5S;5T;5U;5V;5W;5X;5Y;5Z
1MONOSPACE e A;3B;3C;3D;3E;3F;3G;3H;3I;3J;3K;3L;3M;3N;3O;3P;3Q;3R;3S;3T;3U;3V;3W;3X;3Y;3Z;2t A;3B
3C;3D;3E;3F;3G;3H;3I;3J;3K;3L;3M;3N;3O;3P;3Q;3R;3S;3T;3U;3V;3W;3X;3Y;3Z;1ITALIC t DOTLESS I;4J
1D6A8=1BOLD e ALPHA;3BETA;3GAMMA;3DELTA;3EPSILON;3ZETA;3ETA;3THETA;3IOTA;3KAPPA;3LAMDA;3MU;3NU;3XI
3OMICRON;3PI;3RHO;3THETA v;3SIGMA;3TAU;3UPSILON;3PHI;3CHI;3PSI;3OMEGA;2NABLA;2t ALPHA;3BETA;3GAMMA
3DELTA;3EPSILON;3ZETA;3ETA;3THETA;3IOTA;3KAPPA;3LAMDA;3MU;3NU;3XI;3OMICRON;3PI;3RHO;3j SIGMA;3SIGMA
3TAU;3UPSILON;3PHI;3CHI;3PSI;3OMEGA;2PARTIAL DIFFERENTIAL;2EPSILON v;2THETA v;2KAPPA v;2PHI v
2RHO v;2PI v;1ITALIC e ALPHA;3BETA;3GAMMA;3DELTA;3EPSILON;3ZETA;3ETA;3THETA;3IOTA;3KAPPA;3LAMDA;3MU
3NU;3XI;3OMICRON;3PI;3RHO;3THETA v;3SIGMA;3TAU;3UPSILON;3PHI;3CHI;3PSI;3OMEGA;2NABLA;2t ALPHA;3BETA
3GAMMA;3DELTA;3EPSILON;3ZETA;3ETA;3THETA;3IOTA;3KAPPA;3LAMDA;3MU;3NU;3XI;3OMICRON;3PI;3RHO;3j SIGMA
3SIGMA;3TAU;3UPSILON;3PHI;3CHI;3PSI;3OMEGA;2PARTIAL DIFFERENTIAL;2EPSILON v;2THETA v;2KAPPA v
2PHI v;2RHO v;2PI v;1BOLD ITALIC e ALPHA;4BETA;4GAMMA;4DELTA;4EPSILON;4ZETA;4ETA;4THETA;4IOTA
4KAPPA;4LAMDA;4MU;4NU;4XI;4OMICRON;4PI;4RHO;4THETA v;4SIGMA;4TAU;4UPSILON;4PHI;4CHI;4PSI;4OMEGA
3NABLA;3t ALPHA;4BETA;4GAMMA;4DELTA;4EPSILON;4ZETA;4ETA;4THETA;4IOTA;4KAPPA;4LAMDA;4MU;4NU;4XI
4OMICRON;4PI;4RHO;4j SIGMA;4SIGMA;4TAU;4UPSILON;4PHI;4CHI;4PSI;4OMEGA;3PARTIAL DIFFERENTIAL
3EPSILON v;3THETA v;3KAPPA v;3PHI v;3RHO v;3PI v;1SANS-SERIF BOLD e ALPHA;4BETA;4GAMMA;4DELTA
4EPSILON;4ZETA;4ETA;4THETA;4IOTA;4KAPPA;4LAMDA;4MU;4NU;4XI;4OMICRON;4PI;4RHO;4THETA v;4SIGMA;4TAU
4UPSILON;4PHI;4CHI;4PSI;4OMEGA;3NABLA;3t ALPHA;4BETA;4GAMMA;4DELTA;4EPSILON;4ZETA;4ETA;4THETA;4IOTA
4KAPPA;4LAMDA;4MU;4NU;4XI;4OMICRON;4PI;4RHO;4j SIGMA;4SIGMA;4TAU;4UPSILON;4PHI;4CHI;4PSI;4OMEGA
3PARTIAL DIFFERENTIAL;3EPSILON v;3THETA v;3KAPPA v;3PHI v;3RHO v;3PI v;3ITALIC e ALPHA;5BETA;5GAMMA
5DELTA;5EPSILON;5ZETA;5ETA;5THETA;5IOTA;5KAPPA;5LAMDA;5MU;5NU;5XI;5OMICRON;5PI;5RHO;5THETA v;5SIGMA
5TAU;5UPSILON;5PHI;5CHI;5PSI;5OMEGA;4NABLA;4t ALPHA;5BETA;5GAMMA;5DELTA;5EPSILON;5ZETA;5ETA;5THETA
5IOTA;5KAPPA;5LAMDA;5MU;5NU;5XI;5OMICRON;5PI;5RHO;5j SIGMA;5SIGMA;5TAU;5UPSILON;5PHI;5CHI;5PSI
5OMEGA;4PARTIAL DIFFERENTIAL;4EPSILON v;4THETA v;4KAPPA v;4PHI v;4RHO v;4PI v;1BOLD e DIGAMMA
2t DIGAMMA;1D7CE=2DIGIT ZERO;3ONE;3TWO;3w;3FOUR;3FIVE;3SIX;3SEVEN;3EIGHT;3NINE;1i-STRUCK DIGIT ZERO
3ONE;3TWO;3w;3FOUR;3FIVE;3SIX;3SEVEN;3EIGHT;3NINE;1SANS-SERIF DIGIT ZERO;3ONE;3TWO;3w;3FOUR;3FIVE
3SIX;3SEVEN;3EIGHT;3NINE;2BOLD DIGIT ZERO;4ONE;4TWO;4w;4FOUR;4FIVE;4SIX;4SEVEN;4EIGHT;4NINE
1MONOSPACE DIGIT ZERO;3ONE;3TWO;3w;3FOUR;3FIVE;3SIX;3SEVEN;3EIGHT;3NINE;0sWRITING HAND-FIST INDEX
1HAND-f INDEX;1HAND-CUP INDEX;1HAND-OVAL INDEX;1HAND-HINGE INDEX;1HAND-ANGLE INDEX
1HAND-FIST INDEX BENT;1HAND-f INDEX BENT;1HAND-FIST THUMB UNDER INDEX BENT;2INDEX RAISED KNUCKLE
3CUPPED;3HINGED;4LOW;1HAND-f INDEX HINGE;1HAND-FIST INDEX MIDDLE;1HAND-f INDEX MIDDLE
1HAND-FIST INDEX MIDDLE BENT;4RAISED KNUCKLES;4HINGED;3UP MIDDLE HINGED;3HINGED MIDDLE UP
3MIDDLE CONJOINED;5INDEX BENT;5MIDDLE BENT;5CUPPED;5HINGED;4CROSSED;1HAND-f INDEX MIDDLE CROSSED
1HAND-FIST MIDDLE BENT OVER INDEX;2INDEX BENT OVER MIDDLE;3MIDDLE THUMB;1HAND-f INDEX MIDDLE THUMB
1HAND-FIST INDEX MIDDLE STRAIGHT THUMB BENT;4BENT THUMB STRAIGHT;4THUMB BENT
4HINGED SPREAD THUMB SIDE;3UP MIDDLE HINGED THUMB SIDE;7CONJOINED;3HINGED MIDDLE UP THUMB SIDE
3MIDDLE UP SPREAD THUMB FORWARD;4THUMB CUPPED;5fD;5HOOKED;5HINGED
2THUMB BETWEEN INDEX MIDDLE STRAIGHT;2INDEX MIDDLE CONJOINED THUMB SIDE;7CONJOINED;7BENT
2MIDDLE THUMB HOOKED INDEX UP;2INDEX THUMB HOOKED MIDDLE UP;3MIDDLE CONJOINED HINGED THUMB SIDE
4CROSSED THUMB SIDE;4CONJOINED THUMB FORWARD;5CUPPED THUMB FORWARD;2MIDDLE THUMB CUPPED INDEX UP
2INDEX THUMB CUPPED MIDDLE UP;2MIDDLE THUMB fD INDEX UP;6HINGED;2INDEX THUMB ANGLED OUT MIDDLE UP
5IN MIDDLE UP;4fD MIDDLE UP;3MIDDLE THUMB CONJOINED HINGED;5ANGLED OUT;5ANGLED
2MIDDLE THUMB ANGLED OUT INDEX UP;7CROSSED;5INDEX UP;2INDEX THUMB HOOKED MIDDLE HINGED
1HAND-FLAT FOUR FINGERS;4BENT;4HINGED;4CONJOINED;5SPLIT;1HAND-CLAW FOUR FINGERS CONJOINED
1HAND-FIST FOUR FINGERS CONJOINED BENT;1HAND-HINGE FOUR FINGERS CONJOINED
1HAND-FLAT FIVE FINGERS SPREAD;2HEEL FIVE FINGERS SPREAD;2FIVE FINGERS SPREAD FOUR BENT
2HEEL FIVE FINGERS SPREAD FOUR BENT;2FIVE FINGERS SPREAD BENT;2HEEL FIVE FINGERS SPREAD BENT
2FIVE FINGERS SPREAD THUMB FORWARD;1HAND-CUP FIVE FINGERS SPREAD;5OPEN
1HAND-HINGE FIVE FINGERS SPREAD OPEN;1HAND-OVAL FIVE FINGERS SPREAD
1HAND-FLAT FIVE FINGERS SPREAD HINGED;6THUMB SIDE;6NO THUMB;1HAND-FLAT;2BETWEEN PALM FACINGS;2HEEL
2THUMB SIDE;2HEEL THUMB SIDE;2THUMB BENT;3FORWARD;2SPLIT INDEX THUMB SIDE;3CENTRE;4THUMB SIDE;6BENT
3LITTLE;1HAND-CLAW;2THUMB SIDE;2NO THUMB;2THUMB FORWARD;1HAND-HOOK CURLICUE;1HAND-HOOK
1HAND-CUP OPEN;1HAND-CUP;2OPEN THUMB SIDE;2THUMB SIDE;2OPEN NO THUMB;2NO THUMB;2OPEN THUMB FORWARD
2THUMB FORWARD;1HAND-CURLICUE OPEN;1HAND-CURLICUE;1HAND-f;1HAND-OVAL;2THUMB SIDE;2NO THUMB
2THUMB FORWARD;1HAND-HINGE OPEN;3THUMB FORWARD;1HAND-HINGE;2t;2OPEN THUMB SIDE;2THUMB SIDE
2OPEN NO THUMB;2NO THUMB;2THUMB SIDE TOUCHING INDEX;3BETWEEN MIDDLE RING;1HAND-ANGLE
1HAND-FIST INDEX MIDDLE RING;1HAND-f INDEX MIDDLE RING;1HAND-HINGE INDEX MIDDLE RING
1HAND-ANGLE INDEX MIDDLE RING;1HAND-HINGE LITTLE;1HAND-FIST INDEX MIDDLE RING BENT;5CONJOINED
1HAND-HINGE INDEX MIDDLE RING CONJOINED;1HAND-FIST LITTLE DOWN;4RIPPLE STRAIGHT;5CURVED;4OTHERS fD
3UP;2THUMB UNDER LITTLE UP;1HAND-f LITTLE UP;1HAND-OVAL LITTLE UP;1HAND-ANGLE LITTLE UP
1HAND-FIST LITTLE RAISED KNUCKLE;3BENT;3TOUCHES THUMB;3THUMB;1HAND-HINGE LITTLE THUMB
1HAND-FIST LITTLE INDEX THUMB;1HAND-HINGE LITTLE INDEX THUMB
1HAND-ANGLE LITTLE INDEX THUMB INDEX THUMB OUT;6THUMB;1HAND-FIST LITTLE INDEX;1HAND-f LITTLE INDEX
1HAND-HINGE LITTLE INDEX;1HAND-ANGLE LITTLE INDEX;1HAND-FIST INDEX MIDDLE LITTLE
1HAND-f INDEX MIDDLE LITTLE;1HAND-HINGE INDEX MIDDLE LITTLE;2RING;1HAND-ANGLE INDEX MIDDLE LITTLE
1HAND-FIST INDEX MIDDLE CROSS LITTLE;1HAND-f INDEX MIDDLE CROSS LITTLE;1HAND-FIST RING DOWN
1HAND-HINGE RING DOWN INDEX THUMB HOOK MIDDLE;1HAND-ANGLE RING DOWN MIDDLE THUMB INDEX CROSS
1HAND-FIST RING UP;3RAISED KNUCKLE;3LITTLE;1HAND-f RING LITTLE;1HAND-OVAL RING LITTLE
1HAND-ANGLE RING LITTLE;1HAND-FIST RING MIDDLE;4CONJOINED;4RAISED KNUCKLES;3INDEX;3THUMB
1HAND-HOOK RING THUMB;1HAND-FIST INDEX RING LITTLE;1HAND-f INDEX RING LITTLE
1HAND-CURLICUE INDEX RING LITTLE ON;1HAND-HOOK INDEX RING LITTLE OUT;5IN;5UNDER
1HAND-CUP INDEX RING LITTLE;1HAND-HINGE INDEX RING LITTLE;1HAND-ANGLE INDEX RING LITTLE OUT;4LITTLE
1HAND-FIST MIDDLE DOWN;1HAND-HINGE MIDDLE;1HAND-FIST MIDDLE UP;1HAND-f MIDDLE UP
1HAND-FIST MIDDLE RAISED KNUCKLE;3UP THUMB SIDE;1HAND-HOOK MIDDLE THUMB
1HAND-FIST MIDDLE THUMB LITTLE;3LITTLE;3RING LITTLE;1HAND-f MIDDLE RING LITTLE
1HAND-CURLICUE MIDDLE RING LITTLE ON;1HAND-CUP MIDDLE RING LITTLE;1HAND-HINGE MIDDLE RING LITTLE
1HAND-ANGLE MIDDLE RING LITTLE OUT;5IN;4LITTLE;1HAND-f MIDDLE RING LITTLE BENT
1HAND-CLAW MIDDLE RING LITTLE CONJOINED;6SIDE;1HAND-HOOK MIDDLE RING LITTLE CONJOINED OUT;6IN
5CONJOINED;1HAND-HINGE INDEX HINGED;1HAND-FIST INDEX THUMB SIDE;1HAND-HINGE INDEX THUMB SIDE
1HAND-FIST INDEX THUMB SIDE THUMB DIAGONAL;6CONJOINED;6BENT;5INDEX BENT;5BOTH BENT;5INDEX HINGE
4FORWARD INDEX STRAIGHT;6BENT;4HOOK;4CURLICUE;4CURVE THUMB INSIDE
1HAND-CLAW INDEX THUMB CURVE THUMB INSIDE;1HAND-FIST INDEX THUMB CURVE THUMB UNDER;4f
1HAND-CUP INDEX THUMB;4OPEN;1HAND-HINGE INDEX THUMB OPEN;4LARGE;3THUMB;4t
1HAND-ANGLE INDEX THUMB OUT;4IN;3THUMB;1HAND-FIST THUMB;3HEEL;3SIDE DIAGONAL;4CONJOINED;4BENT
3FORWARD;3BETWEEN INDEX MIDDLE;4MIDDLE RING;4RING LITTLE;3UNDER TWO FINGERS;3OVER TWO FINGERS
3UNDER w FINGERS;4FOUR FINGERS;3OVER FOUR RAISED KNUCKLES;1HAND-FIST;2HEEL;1TOUCH SINGLE;2MULTIPLE
2BETWEEN;1GRASP SINGLE;2MULTIPLE;2BETWEEN;1STRIKE SINGLE;2MULTIPLE;2BETWEEN;1BRUSH SINGLE;2MULTIPLE
2BETWEEN;1RUB SINGLE;2MULTIPLE;2BETWEEN;1SURFACE vS;2BETWEEN;1SQUEEZE LARGE SINGLE;2t SINGLE
2LARGE MULTIPLE;2t MULTIPLE;2SEQUENTIAL;1FLICK LARGE SINGLE;2t SINGLE;2LARGE MULTIPLE;2t MULTIPLE
2SEQUENTIAL;1SQUEEZE FLICK ALTERNATING;1MOVEMENT-HINGE UP DOWN LARGE;4t;3SEQUENTIAL
2DOWN SEQUENTIAL;2UP DOWN ALTERNATING LARGE;5t;2SIDE TO SIDE SCISSORS
1MOVEMENT-WALLPLANE FINGER CONTACT;1MOVEMENT-FLOORPLANE FINGER CONTACT
1MOVEMENT-WALLPLANE SINGLE STRAIGHT t;4MEDIUM;4LARGE;4LARGEST;3WRIST FLEX;2i STRAIGHT;3WRIST FLEX
3ALTERNATING;4WRIST FLEX;2CROSS;2TRIPLE STRAIGHT MOVEMENT;3WRIST FLEX;3ALTERNATING;4WRIST FLEX
2BEND t;3MEDIUM;3LARGE;2CORNER t;3MEDIUM;3LARGE;3ROTATION;2CHECK t;3MEDIUM;3LARGE;2BOX t;3MEDIUM
3LARGE;2ZIGZAG t;3MEDIUM;3LARGE;2PEAKS t;3MEDIUM;3LARGE;1TRAVEL-WALLPLANE ROTATION-WALLPLANE SINGLE
3i;3ALTERNATING;2ROTATION-FLOORPLANE SINGLE;3i;3ALTERNATING;2SHAKING;2ARM SPIRAL SINGLE;4i;4TRIPLE
1MOVEMENT-DIAGONAL AWAY t;3MEDIUM;3LARGE;3LARGEST;2TOWARDS t;3MEDIUM;3LARGE;3LARGEST
2BETWEEN AWAY t;4MEDIUM;4LARGE;4LARGEST;3TOWARDS t;4MEDIUM;4LARGE;4LARGEST
1MOVEMENT-FLOORPLANE SINGLE STRAIGHT t;4MEDIUM;4LARGE;4LARGEST;3WRIST FLEX;2i STRAIGHT;3WRIST FLEX
3ALTERNATING;4WRIST FLEX;2CROSS;2TRIPLE STRAIGHT MOVEMENT;3WRIST FLEX;3ALTERNATING MOVEMENT
4WRIST FLEX;2BEND;2CORNER t;3MEDIUM;3LARGE;2CHECK;2BOX t;3MEDIUM;3LARGE;2ZIGZAG t;3MEDIUM;3LARGE
2PEAKS t;3MEDIUM;3LARGE;1TRAVEL-FLOORPLANE ROTATION-FLOORPLANE SINGLE;3i;3ALTERNATING
2ROTATION-WALLPLANE SINGLE;3i;3ALTERNATING;2SHAKING;1MOVEMENT-WALLPLANE CURVE QUARTER t;4MEDIUM
4LARGE;4LARGEST;3HALF-f t;4MEDIUM;4LARGE;4LARGEST;3w-QUARTER f t;5MEDIUM;2HUMP t;3MEDIUM;3LARGE
2LOOP t;3MEDIUM;3LARGE;3t i;2WAVE CURVE i t;5MEDIUM;5LARGE;4TRIPLE t;5MEDIUM;5LARGE
2CURVE THEN STRAIGHT;2CURVED CROSS t;4MEDIUM;1ROTATION-WALLPLANE SINGLE;2i;2ALTERNATE
1MOVEMENT-WALLPLANE SHAKING;2CURVE HITTING FRONT WALL;2HUMP HITTING FRONT WALL
2LOOP HITTING FRONT WALL;2WAVE HITTING FRONT WALL;1ROTATION-WALLPLANE SINGLE HITTING FRONT WALL
2i HITTING FRONT WALL;2ALTERNATING HITTING FRONT WALL;1MOVEMENT-WALLPLANE CURVE HITTING CHEST
2HUMP HITTING CHEST;2LOOP HITTING CHEST;2WAVE HITTING CHEST
1ROTATION-WALLPLANE SINGLE HITTING CHEST;2i HITTING CHEST;2ALTERNATING HITTING CHEST
1MOVEMENT-WALLPLANE WAVE DIAGONAL PATH t;5MEDIUM;5LARGE
1MOVEMENT-FLOORPLANE CURVE HITTING CEILING t;5LARGE;2HUMP HITTING CEILING t i;5LARGE i;5t TRIPLE
5LARGE TRIPLE;2LOOP HITTING CEILING t SINGLE;5LARGE SINGLE;5t i;5LARGE i;2WAVE HITTING CEILING t
5LARGE;1ROTATION-FLOORPLANE SINGLE HITTING CEILING;2i HITTING CEILING;2ALTERNATING HITTING CEILING
1MOVEMENT-FLOORPLANE CURVE HITTING FLOOR t;5LARGE;2HUMP HITTING FLOOR t i;5LARGE i;5TRIPLE t TRIPLE
6LARGE TRIPLE;2LOOP HITTING FLOOR t SINGLE;5LARGE SINGLE;5t i;5LARGE i;2WAVE HITTING FLOOR t;5LARGE
1ROTATION-FLOORPLANE SINGLE HITTING FLOOR;2i HITTING FLOOR;2ALTERNATING HITTING FLOOR
1MOVEMENT-FLOORPLANE CURVE t;3MEDIUM;3LARGE;3LARGEST;3COMBINED;2HUMP t;2LOOP t;2WAVE SNAKE;3t
3LARGE;1ROTATION-FLOORPLANE SINGLE;2i;2ALTERNATING;1MOVEMENT-FLOORPLANE SHAKING PARALLEL
1MOVEMENT-WALLPLANE ARM f t SINGLE;4MEDIUM SINGLE;4t i;4MEDIUM i
1MOVEMENT-FLOORPLANE ARM f HITTING WALL t SINGLE;6MEDIUM SINGLE;6LARGE SINGLE;6t i;6MEDIUM i
6LARGE i;1MOVEMENT-WALLPLANE WRIST f FRONT SINGLE;5i
1MOVEMENT-FLOORPLANE WRIST f HITTING WALL SINGLE;6i;1MOVEMENT-WALLPLANE FINGER fS SINGLE;4i
1MOVEMENT-FLOORPLANE FINGER fS HITTING WALL SINGLE;6i;1DYNAMIC bHEAD t;3LARGE;2FAST;2SLOW;2TENSE
2RELAXED;2SIMULTANEOUS;3ALTERNATING;2EVERY OTHER TIME;2GRADUAL;1HEAD;2RIM
2MOVEMENT-WALLPLANE STRAIGHT;3TILT;2MOVEMENT-FLOORPLANE STRAIGHT;2MOVEMENT-WALLPLANE CURVE
2MOVEMENT-FLOORPLANE CURVE;2MOVEMENT f;1FACE DIRECTION POSITION NOSE FORWARD TILTING;5UP OR DOWN
8TILTING;1EYEBROWS STRAIGHT UP;3NEUTRAL;3DOWN;1DREAMY EYEBROWS NEUTRAL DOWN;3DOWN NEUTRAL
3UP NEUTRAL;3NEUTRAL UP;1FOREHEAD NEUTRAL;2CONTACT;2WRINKLED;1EYES OPEN;2SQUEEZED;2CLOSED
1EYE BLINK SINGLE;3MULTIPLE;1EYES HALF OPEN;2WIDE OPEN;2HALF CLOSED;2WIDENING MOVEMENT;1EYE WINK
1EYELASHES UP;2DOWN;2FLUTTERING;1EYEGAZE-WALLPLANE STRAIGHT;3i;3ALTERNATING
1EYEGAZE-FLOORPLANE STRAIGHT;3i;3ALTERNATING;1EYEGAZE-WALLPLANE CURVED;1EYEGAZE-FLOORPLANE CURVED
1EYEGAZE-WALLPLANE CIRCLING;1CHEEKS PUFFED;2NEUTRAL;2SUCKED;1TENSE CHEEKS HIGH;3MIDDLE;3LOW;1EARS
1NOSE NEUTRAL;2CONTACT;2WRINKLES;2WIGGLES;1AIR BLOWING OUT;2SUCKING IN;2BLOW t ROTATIONS
2SUCK t ROTATIONS;1BREATH INHALE;2EXHALE;1MOUTH CLOSED NEUTRAL;3FORWARD;3CONTACT;2SMILE;3WRINKLED
3OPEN;2FROWN;3WRINKLED;3OPEN;2OPEN f;3FORWARD;3WRINKLED;3OVAL;4WRINKLED;4YAWN;3RECTANGLE;4WRINKLED
4YAWN;2KISS;3FORWARD;3WRINKLED;2TENSE;3FORWARD;3SUCKED;1LIPS PRESSED TOGETHER;1LIP LOWER OVER UPPER
2UPPER OVER LOWER;1MOUTH CORNERS;2WRINKLES SINGLE;3i;1TONGUE STICKING OUT FAR;2LICKING LIPS
2TIP BETWEEN LIPS;3TOUCHING INSIDE MOUTH;2INSIDE MOUTH RELAXED;2MOVES AGAINST CHEEK
2CENTRE STICKING OUT;3INSIDE MOUTH;1TEETH;2MOVEMENT;2ON TONGUE;4MOVEMENT;3LIPS;4MOVEMENT;2BITE LIPS
1MOVEMENT-WALLPLANE JAW;1MOVEMENT-FLOORPLANE JAW;1NECK;1HAIR;1EXCITEMENT;1SHOULDER HIP SPINE
3POSITIONS;1WALLPLANE SHOULDER HIP MOVE;1FLOORPLANE SHOULDER HIP MOVE;1SHOULDER TILTING FROM WAIST
1TORSO-WALLPLANE STRAIGHT STRETCH;2CURVED BEND;1TORSO-FLOORPLANE TWISTING
1UPPER BODY TILTING FROM HIP JOINTS;1LIMB COMBINATION;2LENGTH-1;2LENGTH-2;2LENGTH-3;2LENGTH-4
2LENGTH-5;2LENGTH-6;2LENGTH-7;1FINGER;1LOCATION-WALLPLANE SPACE;1LOCATION-FLOORPLANE SPACE
1LOCATION HEIGHT;2WIDTH;2DEPTH;2HEAD NECK;2TORSO;2LIMBS DIGITS;1COMMA;1FULL STOP;1SEMICOLON;1COLON
1PARENTHESIS;1DA9B=1FILL MODIFIER-2;2MODIFIER-3;2MODIFIER-4;2MODIFIER-5;2MODIFIER-6
1DAA1=1ROTATION MODIFIER-2;2MODIFIER-3;2MODIFIER-4;2MODIFIER-5;2MODIFIER-6;2MODIFIER-7;2MODIFIER-8
2MODIFIER-9;2MODIFIER-10;2MODIFIER-11;2MODIFIER-12;2MODIFIER-13;2MODIFIER-14;2MODIFIER-15
2MODIFIER-16;1DF00=0LATIN t p FENG DIGRAPH z TRILL;3REVERSED SCRIPT G;1p t e TURNED G
1t p REVERSED K;1p t e L z BELT;1t p LEZH z RETROFLEX HOOK;3TURNED Y z BELT;3REVERSED ENG
3TURNED R z LONG LEG AND RETROFLEX HOOK;3T z HOOK AND RETROFLEX HOOK
1p RETROFLEX CLICK z RETROFLEX HOOK;1t p ESH z i BAR;7AND CURL;3TURNED T z CURL
1p INVERTED GLOTTAL STOP z CURL;2STRETCHED C z CURL;2t e TURNED K;1t p L z FISHHOOK
3DEZH DIGRAPH z PALATAL HOOK;3L z BELT AND PALATAL HOOK;3ENG z PALATAL HOOK
3TURNED R z PALATAL HOOK;3R z FISHHOOK AND PALATAL HOOK;3TESH DIGRAPH z PALATAL HOOK
3EZH z PALATAL HOOK;3DEZH DIGRAPH z RETROFLEX HOOK;3I z u AND RETROFLEX HOOK;3O z RETROFLEX HOOK
3TESH DIGRAPH z RETROFLEX HOOK;3C z RETROFLEX HOOK;3S z CURL;1E000=0COMBINING GLAGOLITIC p AZU
3BUKY;3VEDE;3GLAGOLI;3DOBRO;3YESTU;3ZHIVETE;1E008=3ZEMLJA;3IZHE;3m IZHE;3I;3DJERVI;3KAKO;3LJUDIJE
3MYSLITE;3NASHI;3ONU;3POKOJI;3RITSI;3SLOVO;3TVRIDO;3UKU;3FRITU;3HERU;1E01B=3SHTA;3TSI;3CHRIVI;3SHA
3YERU;3YERI;3YATI;1E023=3YU;3t YUS;1E026=3YO;3IOTATED t YUS;3BIG YUS;3IOTATED BIG YUS;3FITA
1E100=0NYIAKENG PUACHUE HMONG p MA;4TSA;4NTA;4TA;4HA;4NA;4XA;4NKA;4CA;4LA;4SA;4ZA;4NCA;4NTSA;4KA
4DA;4NYA;4NRA;4VA;4NTXA;4TXA;4FA;4RA;4QA;4YA;4NQA;4PA;4XYA;4NPA;4DLA;4NPLA;4HAH;4MLA;4PLA;4GA;4RRA
4A;4AA;4I;4U;4O;4OO;4E;4EE;4W;1E130=3TONE-B;3TONE-M;3TONE-J;3TONE-V;3TONE-S;3TONE-G;3TONE-D
3s FOR PERSON;5THING;5LOCATION;5ANIMAL;5INVERTEBRATE;4XW XW;3SYLLABLE LENGTHENER;1E140=3DIGIT ZERO
4ONE;4TWO;4w;4FOUR;4FIVE;4SIX;4SEVEN;4EIGHT;4NINE;1E14E=3LOGOGRAM NYAJ;3fD CA;1E290=0TOTO p PA;2BA
2TA;2DA;2KA;2GA;2MA;2NA;2NGA;2SA;2CHA;2YA;2WA;2JA;2HA;2RA;2LA;2I;2BREATHY I;2IU;2BREATHY IU;2U;2E
2BREATHY E;2EO;2BREATHY EO;2O;2AE;2BREATHY AE;2A;1s RISING TONE;1E2C0=0WANCHO p AA;2A;2BA;2CA;2DA
2GA;2YA;2PHA;2LA;2NA;2PA;2TA;2THA;2FA;2SA;2SHA;2JA;2ZA;2WA;2VA;2KA;2O;2AU;2RA;2MA;2KHA;2HA;2E;2I
2NGA;2U;2LLHA;2TSA;2TRA;2ONG;2AANG;2ANG;2ING;2ON;2EN;2AAN;2NYA;2UEN;2YIH;1TONE TUP;2TUPNI;2KOI
2KOINI;1DIGIT ZERO;2ONE;2TWO;2w;2FOUR;2FIVE;2SIX;2SEVEN;2EIGHT;2NINE;1E2FF=1NGUN s
1E7E0=0ETHIOPIC SYLLABLE HHYA;2HHYU;2HHYI;2HHYAA;2HHYEE;2HHYE;2HHYO;1E7E8=2GURAGE HHWA;2HHWI;2HHWEE
2HHWE;1E7ED=2GURAGE MWI;3MWEE;1E7F0=3QWI;3QWEE;3QWE;3BWI;3BWEE;3KWI;3KWEE;3KWE;3GWI;3GWEE;3GWE;3FWI
3FWEE;3PWI;3PWEE;1E800=0MENDE KIKAKUI SYLLABLE M001 KI;3M002 KA;3M003 KU;3M065 KEE;3M095 KE
3M076 KOO;3M048 KO;3M179 KUA;3M004 WI;3M005 WA;3M006 WU;3M126 WEE;3M118 WE;3M114 WOO;3M045 WO
3M194 WUI;3M143 WEI;3M061 WVI;3M049 WVA;3M139 WVE;3M007 MIN;3M008 MAN;3M009 MUN;3M059 MEN;3M094 MON
3M154 MUAN;3M189 MUEN;3M010 BI;3M011 BA;3M012 BU;3M150 BEE;3M097 BE;3M103 BOO;3M138 BO;3M013 I
3M014 A;3M015 U;3M163 EE;3M100 E;3M165 OO;3M147 O;3M137 EI;3M131 IN;3M135 IN;3M195 AN;3M178 EN
3M019 SI;3M020 SA;3M021 SU;3M162 SEE;3M116 SE;3M136 SOO;3M079 SO;3M196 SIA;3M025 LI;3M026 LA
3M027 LU;3M084 LEE;3M073 LE;3M054 LOO;3M153 LO;3M110 LONG LE;3M016 DI;3M017 DA;3M018 DU;3M089 DEE
3M180 DOO;3M181 DO;3M022 TI;3M023 TA;3M024 TU;3M091 TEE;3M055 TE;3M104 TOO;3M069 TO;3M028 JI
3M029 JA;3M030 JU;3M157 JEE;3M113 JE;3M160 JOO;3M063 JO;3M175 LONG JO;3M031 YI;3M032 YA;3M033 YU
3M109 YEE;3M080 YE;3M141 YOO;3M121 YO;3M034 FI;3M035 FA;3M036 FU;3M078 FEE;3M075 FE;3M133 FOO
3M088 FO;3M197 FUA;3M101 FAN;3M037 NIN;3M038 NAN;3M039 NUN;3M117 NEN;3M169 NON;3M176 HI;3M041 HA
3M186 HU;3M040 HEE;3M096 HE;3M042 HOO;3M140 HO;3M083 HEEI;3M128 HOOU;3M053 HIN;3M130 HAN;3M087 HUN
3M052 HEN;3M193 HON;3M046 HUAN;3M090 NGGI;3M043 NGGA;3M082 NGGU;3M115 NGGEE;3M146 NGGE;3M156 NGGOO
3M120 NGGO;3M159 NGGAA;3M127 NGGUA;3M086 LONG NGGE;3M106 LONG NGGOO;3M183 LONG NGGO;3M155 GI
3M111 GA;3M168 GU;3M190 GEE;3M166 GUEI;3M167 GUAN;3M184 NGEN;3M057 NGON;3M177 NGUAN;3M068 PI
3M099 PA;3M050 PU;3M081 PEE;3M051 PE;3M102 POO;3M066 PO;3M145 MBI;3M062 MBA;3M122 MBU;3M047 MBEE
3M188 MBEE;3M072 MBE;3M172 MBOO;3M174 MBO;3M187 MBUU;3M161 LONG MBE;3M105 LONG MBOO;3M142 LONG MBO
3M132 KPI;3M092 KPA;3M074 KPU;3M044 KPEE;3M108 KPE;3M112 KPOO;3M158 KPO;3M124 GBI;3M056 GBA
3M148 GBU;3M093 GBEE;3M107 GBE;3M071 GBOO;3M070 GBO;3M171 RA;3M123 NDI;3M129 NDA;3M125 NDU
3M191 NDEE;3M119 NDE;3M067 NDOO;3M064 NDO;3M152 NJA;3M192 NJU;3M149 NJEE;3M134 NJOO;3M182 VI
3M185 VA;3M151 VU;3M173 VEE;3M085 VE;3M144 VOO;3M077 VO;3M164 NYIN;3M058 NYAN;3M170 NYUN;3M098 NYEN
3M060 NYON;1E8C7=2DIGIT ONE;3TWO;3w;3FOUR;3FIVE;3SIX;3SEVEN;3EIGHT;3NINE;2COMBINING NUMBER TEENS
4TENS;4HUNDREDS;4THOUSANDS;4TEN THOUSANDS;4HUNDRED THOUSANDS;4MILLIONS;1E900=0ADLAM e p ALIF;3DAALI
3LAAM;3MIIM;3BA;3SINNYIIYHE;3PE;3BHE;3RA;3E;3FA;3I;3O;3DHA;3YHE;3WAW;3NUN;3KAF;3YA;3U;3JIIM;3CHI
3HA;3QAAF;3GA;3NYA;3TU;3NHA;3VA;3KHA;3GBE;3ZAL;3KPO;3SHA;1t p ALIF;3DAALI;3LAAM;3MIIM;3BA
3SINNYIIYHE;3PE;3BHE;3RA;3E;3FA;3I;3O;3DHA;3YHE;3WAW;3NUN;3KAF;3YA;3U;3JIIM;3CHI;3HA;3QAAF;3GA;3NYA
3TU;3NHA;3VA;3KHA;3GBE;3ZAL;3KPO;3SHA;1ALIF LENGTHENER;1VOWEL LENGTHENER;1GEMINATION MARK;1HAMZA
1CONSONANT MODIFIER;1GEMINATE CONSONANT MODIFIER;1NUKTA;1NASALIZATION MARK;1E950=1DIGIT ZERO;2ONE
2TWO;2w;2FOUR;2FIVE;2SIX;2SEVEN;2EIGHT;2NINE;1E95E=1m EXCLAMATION MARK;2QUESTION MARK
1EC71=0INDIC SIYAQ NUMBER ONE;3TWO;3w;3FOUR;3FIVE;3SIX;3SEVEN;3EIGHT;3NINE;3TEN;3TWENTY;3THIRTY
3FORTY;3FIFTY;3SIXTY;3SEVENTY;3EIGHTY;3NINETY;3ONE HUNDRED;3TWO HUNDRED;3w HUNDRED;3FOUR HUNDRED
3FIVE HUNDRED;3SIX HUNDRED;3SEVEN HUNDRED;3EIGHT HUNDRED;3NINE HUNDRED;3ONE THOUSAND;3TWO THOUSAND
3w THOUSAND;3FOUR THOUSAND;3FIVE THOUSAND;3SIX THOUSAND;3SEVEN THOUSAND;3EIGHT THOUSAND
3NINE THOUSAND;3TEN THOUSAND;3TWENTY THOUSAND;3THIRTY THOUSAND;3FORTY THOUSAND;3FIFTY THOUSAND
3SIXTY THOUSAND;3SEVENTY THOUSAND;3EIGHTY THOUSAND;3NINETY THOUSAND;3LAKH;3LAKHAN;2LAKH MARK
2NUMBER KAROR;3KARORAN;3PREFIXED ONE;4TWO;4w;4FOUR;4FIVE;4SIX;4SEVEN;4EIGHT;4NINE;2PLACEHOLDER
2FRACTION ONE QUARTER;4HALF;3w QUARTERS;2RUPEE MARK;2NUMBER ALTERNATE ONE;4TWO;4TEN THOUSAND
2ALTERNATE LAKH MARK;1ED01=0OTTOMAN SIYAQ NUMBER ONE;3TWO;3w;3FOUR;3FIVE;3SIX;3SEVEN;3EIGHT;3NINE
3TEN;3TWENTY;3THIRTY;3FORTY;3FIFTY;3SIXTY;3SEVENTY;3EIGHTY;3NINETY;3ONE HUNDRED;3TWO HUNDRED
3w HUNDRED;3FOUR HUNDRED;3FIVE HUNDRED;3SIX HUNDRED;3SEVEN HUNDRED;3EIGHT HUNDRED;3NINE HUNDRED
3ONE THOUSAND;3TWO THOUSAND;3w THOUSAND;3FOUR THOUSAND;3FIVE THOUSAND;3SIX THOUSAND;3SEVEN THOUSAND
3EIGHT THOUSAND;3NINE THOUSAND;3TEN THOUSAND;3TWENTY THOUSAND;3THIRTY THOUSAND;3FORTY THOUSAND
3FIFTY THOUSAND;3SIXTY THOUSAND;3SEVENTY THOUSAND;3EIGHTY THOUSAND;3NINETY THOUSAND;2MARRATAN
2ALTERNATE NUMBER TWO;4w;4FOUR;4FIVE;4SIX;4SEVEN;4EIGHT;4NINE;4TEN;4FOUR HUNDRED;4SIX HUNDRED
4TWO THOUSAND;4TEN THOUSAND;2FRACTION ONE HALF;4SIXTH;1EE00=0ARABIC MATHEMATICAL ALEF;2BEH;2JEEM
2DAL;1EE05=2WAW;2ZAIN;2HAH;2TAH;2YEH;2KAF;2LAM;2MEEM;2NOON;2SEEN;2AIN;2FEH;2SAD;2QAF;2REH;2SHEEN
2TEH;2THEH;2KHAH;2THAL;2DAD;2ZAH;2GHAIN;2DOTLESS BEH;3NOON;3FEH;3QAF;1EE21=2m BEH;3JEEM;1EE24=3HEH
1EE27=3HAH;1EE29=3YEH;3KAF;3LAM;3MEEM;3NOON;3SEEN;3AIN;3FEH;3SAD;3QAF;1EE34=3SHEEN;3TEH;3THEH;3KHAH
1EE39=3DAD;1EE3B=3GHAIN;1EE42=2TAILED JEEM;1EE47=3HAH;1EE49=3YEH;1EE4B=3LAM;1EE4D=3NOON;3SEEN;3AIN
1EE51=3SAD;3QAF;1EE54=3SHEEN;1EE57=3KHAH;1EE59=3DAD;1EE5B=3GHAIN;1EE5D=3DOTLESS NOON;1EE5F=4QAF
1EE61=2STRETCHED BEH;3JEEM;1EE64=3HEH;1EE67=3HAH;3TAH;3YEH;3KAF;1EE6C=3MEEM;3NOON;3SEEN;3AIN;3FEH
3SAD;3QAF;1EE74=3SHEEN;3TEH;3THEH;3KHAH;1EE79=3DAD;3ZAH;3GHAIN;3DOTLESS BEH;1EE7E=4FEH
1EE80=2LOOPED ALEF;3BEH;3JEEM;3DAL;3HEH;3WAW;3ZAIN;3HAH;3TAH;3YEH;1EE8B=3LAM;3MEEM;3NOON;3SEEN;3AIN
3FEH;3SAD;3QAF;3REH;3SHEEN;3TEH;3THEH;3KHAH;3THAL;3DAD;3ZAH;3GHAIN;1EEA1=2i-STRUCK BEH;3JEEM;3DAL
1EEA5=3WAW;3ZAIN;3HAH;3TAH;3YEH;1EEAB=3LAM;3MEEM;3NOON;3SEEN;3AIN;3FEH;3SAD;3QAF;3REH;3SHEEN;3TEH
3THEH;3KHAH;3THAL;3DAD;3ZAH;3GHAIN;1EEF0=2OPERATOR MEEM z HAH z TATWEEL;3HAH z DAL
1F000=0MAHJONG TILE EAST WIND;2SOUTH WIND;2WEST WIND;2NORTH WIND;2RED DRAGON;2GREEN DRAGON
2WHITE DRAGON;2ONE OF CHARACTERS;2TWO OF CHARACTERS;2w OF CHARACTERS;2FOUR OF CHARACTERS
2FIVE OF CHARACTERS;2SIX OF CHARACTERS;2SEVEN OF CHARACTERS;2EIGHT OF CHARACTERS
2NINE OF CHARACTERS;2ONE OF BAMBOOS;2TWO OF BAMBOOS;2w OF BAMBOOS;2FOUR OF BAMBOOS;2FIVE OF BAMBOOS
2SIX OF BAMBOOS;2SEVEN OF BAMBOOS;2EIGHT OF BAMBOOS;2NINE OF BAMBOOS;2ONE OF fS;2TWO OF fS;2w OF fS
2FOUR OF fS;2FIVE OF fS;2SIX OF fS;2SEVEN OF fS;2EIGHT OF fS;2NINE OF fS;2PLUM;2ORCHID;2BAMBOO
2CHRYSANTHEMUM;2SPRING;2SUMMER;2AUTUMN;2WINTER;2JOKER;2BACK;1F030=0DOMINO TILE l BACK;2l-00-00
2l-00-01;2l-00-02;2l-00-03;2l-00-04;2l-00-05;2l-00-06;2l-01-00;2l-01-01;2l-01-02;2l-01-03;2l-01-04
2l-01-05;2l-01-06;2l-02-00;2l-02-01;2l-02-02;2l-02-03;2l-02-04;2l-02-05;2l-02-06;2l-03-00;2l-03-01
2l-03-02;2l-03-03;2l-03-04;2l-03-05;2l-03-06;2l-04-00;2l-04-01;2l-04-02;2l-04-03;2l-04-04;2l-04-05
2l-04-06;2l-05-00;2l-05-01;2l-05-02;2l-05-03;2l-05-04;2l-05-05;2l-05-06;2l-06-00;2l-06-01;2l-06-02
2l-06-03;2l-06-04;2l-06-05;2l-06-06;2y BACK;2y-00-00;2y-00-01;2y-00-02;2y-00-03;2y-00-04;2y-00-05
2y-00-06;2y-01-00;2y-01-01;2y-01-02;2y-01-03;2y-01-04;2y-01-05;2y-01-06;2y-02-00;2y-02-01;2y-02-02
2y-02-03;2y-02-04;2y-02-05;2y-02-06;2y-03-00;2y-03-01;2y-03-02;2y-03-03;2y-03-04;2y-03-05;2y-03-06
2y-04-00;2y-04-01;2y-04-02;2y-04-03;2y-04-04;2y-04-05;2y-04-06;2y-05-00;2y-05-01;2y-05-02;2y-05-03
2y-05-04;2y-05-05;2y-05-06;2y-06-00;2y-06-01;2y-06-02;2y-06-03;2y-06-04;2y-06-05;2y-06-06
1F0A0=0PLAYING CARD BACK;2ACE OF SPADES;2TWO OF SPADES;2w OF SPADES;2FOUR OF SPADES;2FIVE OF SPADES
2SIX OF SPADES;2SEVEN OF SPADES;2EIGHT OF SPADES;2NINE OF SPADES;2TEN OF SPADES;2JACK OF SPADES
2KNIGHT OF SPADES;2QUEEN OF SPADES;2KING OF SPADES;1F0B1=2ACE OF HEARTS;2TWO OF HEARTS;2w OF HEARTS
2FOUR OF HEARTS;2FIVE OF HEARTS;2SIX OF HEARTS;2SEVEN OF HEARTS;2EIGHT OF HEARTS;2NINE OF HEARTS
2TEN OF HEARTS;2JACK OF HEARTS;2KNIGHT OF HEARTS;2QUEEN OF HEARTS;2KING OF HEARTS;2RED JOKER
1F0C1=2ACE OF DIAMONDS;2TWO OF DIAMONDS;2w OF DIAMONDS;2FOUR OF DIAMONDS;2FIVE OF DIAMONDS
2SIX OF DIAMONDS;2SEVEN OF DIAMONDS;2EIGHT OF DIAMONDS;2NINE OF DIAMONDS;2TEN OF DIAMONDS
2JACK OF DIAMONDS;2KNIGHT OF DIAMONDS;2QUEEN OF DIAMONDS;2KING OF DIAMONDS;2d JOKER
1F0D1=2ACE OF CLUBS;2TWO OF CLUBS;2w OF CLUBS;2FOUR OF CLUBS;2FIVE OF CLUBS;2SIX OF CLUBS
2SEVEN OF CLUBS;2EIGHT OF CLUBS;2NINE OF CLUBS;2TEN OF CLUBS;2JACK OF CLUBS;2KNIGHT OF CLUBS
2QUEEN OF CLUBS;2KING OF CLUBS;2WHITE JOKER;2FOOL;2TRUMP-1;2TRUMP-2;2TRUMP-3;2TRUMP-4;2TRUMP-5
2TRUMP-6;2TRUMP-7;2TRUMP-8;2TRUMP-9;2TRUMP-10;2TRUMP-11;2TRUMP-12;2TRUMP-13;2TRUMP-14;2TRUMP-15
2TRUMP-16;2TRUMP-17;2TRUMP-18;2TRUMP-19;2TRUMP-20;2TRUMP-21;1F100=0DIGIT ZERO FULL STOP;2COMMA
1ONE COMMA;1TWO COMMA;1w COMMA;1FOUR COMMA;1FIVE COMMA;1SIX COMMA;1SEVEN COMMA;1EIGHT COMMA
1NINE COMMA;0DINGBAT fD SANS-SERIF DIGIT ZERO;1NEGATIVE fD SANS-SERIF DIGIT ZERO;0fD ZERO z SLASH
1ANTICLOCKWISE b;1DOLLAR s z OVERLAID BACKSLASH;0PARENTHESIZED LATIN e p A;4B;4C;4D;4E;4F;4G;4H;4I
4J;4K;4L;4M;4N;4O;4P;4Q;4R;4S;4T;4U;4V;4W;4X;4Y;4Z;0TORTOISE SHELL BRACKETED LATIN e p S
0fD ITALIC LATIN e p C;5R;1CD;1WZ;0COPYo v;0SQUARED LATIN e p A;4B;4C;4D;4E;4F;4G;4H;4I;4J;4K;4L;4M
4N;4O;4P;4Q;4R;4S;4T;4U;4V;4W;4X;4Y;4Z;1HV;1MV;1SD;1SS;1PPV;1WC;0NEGATIVE fD LATIN e p A;5B;5C;5D
5E;5F;5G;5H;5I;5J;5K;5L;5M;5N;5O;5P;5Q;5R;5S;5T;5U;5V;5W;5X;5Y;5Z;0RAISED MC s;1MD s;1MR s;0fD CC
1C z OVERLAID BACKSLASH;1HUMAN FIGURE;0NEGATIVE SQUARED LATIN e p A;5B;5C;5D;5E;5F;5G;5H;5I;5J;5K
5L;5M;5N;5O;5P;5Q;5R;5S;5T;5U;5V;5W;5X;5Y;5Z;0CROSSED NEGATIVE SQUARED LATIN e p P
0NEGATIVE SQUARED IC;2PA;2SA;2AB;2WC;0SQUARE DJ;0SQUARED CL;1COOL;1FREE;1ID;1NEW;1NG;1OK;1SOS
1UP z EXCLAMATION MARK;1VS;1w D;1SECOND SCREEN;1TWO K;1FOUR K;1EIGHT K;1FIVE POINT ONE
1SEVEN POINT ONE;1TWENTY-TWO POINT TWO;1SIXTY P;1ONE HUNDRED TWENTY P;1LATIN t p D;1HC;1HDR;1HI-RES
1LOSSLESS;1SHV;1UHD;1VOD;0MASK WORK v;1F1E6=0REGIONAL INDICATOR v p A;4B;4C;4D;4E;4F;4G;4H;4I;4J;4K
4L;4M;4N;4O;4P;4Q;4R;4S;4T;4U;4V;4W;4X;4Y;4Z;0SQUARE HIRAGANA HOKA;0SQUARED KATAKANA KOKO;2SA
1F210=1CJK UNIFIED IDEOGRAPH-624B;3IDEOGRAPH-5B57;3IDEOGRAPH-53CC;1KATAKANA DE
1CJK UNIFIED IDEOGRAPH-4E8C;3IDEOGRAPH-591A;3IDEOGRAPH-89E3;3IDEOGRAPH-5929;3IDEOGRAPH-4EA4
3IDEOGRAPH-6620;3IDEOGRAPH-7121;3IDEOGRAPH-6599;3IDEOGRAPH-524D;3IDEOGRAPH-5F8C;3IDEOGRAPH-518D
3IDEOGRAPH-65B0;3IDEOGRAPH-521D;3IDEOGRAPH-7D42;3IDEOGRAPH-751F;3IDEOGRAPH-8CA9;3IDEOGRAPH-58F0
3IDEOGRAPH-5439;3IDEOGRAPH-6F14;3IDEOGRAPH-6295;3IDEOGRAPH-6355;3IDEOGRAPH-4E00;3IDEOGRAPH-4E09
3IDEOGRAPH-904A;3IDEOGRAPH-5DE6;3IDEOGRAPH-4E2D;3IDEOGRAPH-53F3;3IDEOGRAPH-6307;3IDEOGRAPH-8D70
3IDEOGRAPH-6253;3IDEOGRAPH-7981;3IDEOGRAPH-7A7A;3IDEOGRAPH-5408;3IDEOGRAPH-6E80;3IDEOGRAPH-6709
3IDEOGRAPH-6708;3IDEOGRAPH-7533;3IDEOGRAPH-5272;3IDEOGRAPH-55B6;3IDEOGRAPH-914D
1F240=0TORTOISE SHELL BRACKETED CJK UNIFIED IDEOGRAPH-672C;5IDEOGRAPH-4E09;5IDEOGRAPH-4E8C
5IDEOGRAPH-5B89;5IDEOGRAPH-70B9;5IDEOGRAPH-6253;5IDEOGRAPH-76D7;5IDEOGRAPH-52DD;5IDEOGRAPH-6557
1F250=0fD IDEOGRAPH ADVANTAGE;2ACCEPT;1F260=0ROUNDED v FOR FU;3LU;3SHOU;3XI;3SHUANGXI;3CAI
1F300=0CYCLONE;0FOGGY;0CLOSED UMBRELLA;0NIGHT z STARS;0SUNRISE OVER MOUNTAINS;0SUNRISE
0CITYSCAPE AT DUSK;0SUNSET OVER BUILDINGS;0RAINBOW;0BRIDGE AT NIGHT;0WATER WAVE;0VOLCANO;0MILKY WAY
0EARTH GLOBE EUROPE-AFRICA;2AMERICAS;2ASIA-AUSTRALIA;0GLOBE z MERIDIANS;0NEW MOON v
0WAXING CRESCENT MOON v;0FIRST QUARTER MOON v;0WAXING GIBBOUS MOON v;0FULL MOON v
0WANING GIBBOUS MOON v;0LAST QUARTER MOON v;0WANING CRESCENT MOON v;0CRESCENT MOON;0NEW MOON z FACE
0FIRST QUARTER MOON z FACE;0LAST QUARTER MOON z FACE;0FULL MOON z FACE;0SUN z FACE;0GLOWING STAR
0SHOOTING STAR;0THERMOMETER;0d DROPLET;0WHITE SUN;2z t CLOUD;2BEHIND CLOUD;4z RAIN;0CLOUD z RAIN
2SNOW;2LIGHTNING;2TORNADO;0FOG;0WIND BLOWING FACE;0HOT DOG;0TACO;0BURRITO;0CHESTNUT;0SEEDLING
0EVERGREEN TREE;0DECIDUOUS TREE;0PALM TREE;0CACTUS;0HOT PEPPER;0TULIP;0CHERRY BLOSSOM;0ROSE
0HIBISCUS;0SUNFLOWER;0BLOSSOM;0EAR OF MAIZE;2RICE;0HERB;0FOUR LEAF CLOVER;0MAPLE LEAF;0FALLEN LEAF
0LEAF FLUTTERING IN WIND;0MUSHROOM;0TOMATO;0AUBERGINE;0GRAPES;0MELON;0WATERMELON;0TANGERINE;0LEMON
0BANANA;0PINEAPPLE;0RED APPLE;0GREEN APPLE;0PEAR;0PEACH;0CHERRIES;0STRAWBERRY;0HAMBURGER
0SLICE OF PIZZA;0MEAT ON BONE;0POULTRY LEG;0RICE CRACKER;1BALL;0COOKED RICE;0CURRY AND RICE
0STEAMING BOWL;0SPAGHETTI;0BREAD;0FRENCH FRIES;0ROASTED SWEET POTATO;0DANGO;0ODEN;0SUSHI
0FRIED SHRIMP;0FISH CAKE z SWIRL DEs;0SOFT ICE CREAM;0SHAVED ICE;0ICE CREAM;0DOUGHNUT;0COOKIE
0CHOCOLATE BAR;0CANDY;0LOLLIPOP;0CUSTARD;0HONEY POT;0SHORTCAKE;0BENTO BOX;0POT OF FOOD;0COOKING
0FORK AND KNIFE;0TEACUP zOUT HANDLE;0SAKE BOTTLE AND CUP;0WINE GLASS;0COCKTAIL GLASS
0TROPICAL DRINK;0BEER MUG;0CLINKING BEER MUGS;0BABY BOTTLE;0FORK AND KNIFE z PLATE
0BOTTLE z POPPING CORK;0POPCORN;0RIBBON;0WRAPPED PRESENT;0BIRTHDAY CAKE;0JACK-O-LANTERN
0CHRISTMAS TREE;0FATHER CHRISTMAS;0FIREWORKS;0FIREWORK SPARKLER;0BALLOON;0PARTY POPPER
0CONFETTI BALL;0TANABATA TREE;0CROSSED FLAGS;0PINE DECORATION;0JAPANESE DOLLS;0CARP STREAMER
0WIND CHIME;0MOON VIEWING CEREMONY;0SCHOOL SATCHEL;0GRADUATION CAP;0HEART z TIP ON THE o
0BOUQUET OF FLOWERS;0MILITARY MEDAL;0REMINDER RIBBON;0MUSICAL KEYBOARD z JACKS;0STUDIO MICROPHONE
0LEVEL SLIDER;0CONTROL KNOBS;0BEAMED ASCENDING MUSICAL NOTES;1DESCENDING MUSICAL NOTES;0FILM FRAMES
0ADMISSION TICKETS;0CAROUSEL HORSE;0FERRIS WHEEL;0ROLLER COASTER;0FISHING POLE AND FISH;0MICROPHONE
0MOVIE CAMERA;0CINEMA;0HEADPHONE;0ARTIST PALETTE;0TOP HAT;0CIRCUS TENT;0TICKET;0CLAPPER BOARD
0PERkING ARTS;0VIDEO GAME;0DIRECT HIT;0SLOT MACHINE;0BILLIARDS;0GAME DIE;0BOWLING
0FLOWER PLAYING CARDS;0MUSICAL NOTE;0MULTIPLE MUSICAL NOTES;0SAXOPHONE;0GUITAR;0MUSICAL KEYBOARD
0TRUMPET;0VIOLIN;0MUSICAL SCORE;0RUNNING SHIRT z SASH;0TENNIS RACQUET AND BALL;0SKI AND SKI BOOT
0BASKETBALL AND HOOP;0CHEQUERED FLAG;0SNOWBOARDER;0RUNNER;0SURFER;0SPORTS MEDAL;0TROPHY
0HORSE RACING;0AMERICAN FOOTBALL;0RUGBY FOOTBALL;0SWIMMER;0WEIGHT LIFTER;0GOLFER;0RACING MOTORCYCLE
1CAR;0CRICKET BAT AND BALL;0VOLLEYBALL;0FIELD HOCKEY STICK AND BALL;0ICE HOCKEY STICK AND PUCK
0TABLE TENNIS PADDLE AND BALL;0SNOW CAPPED MOUNTAIN;0CAMPING;0BEACH z UMBRELLA
0BUILDING CONSTRUCTION;0HOUSE BUILDINGS;0CITYSCAPE;0DERELICT HOUSE BUILDING;0CLASSICAL BUILDING
0DESERT;1ISLAND;0NATIONAL PARK;0STADIUM;0HOUSE BUILDING;1z GARDEN;0OFFICE BUILDING
0JAPANESE POST OFFICE;0EUROPEAN POST OFFICE;0HOSPITAL;0BANK;0AUTOMATED TELLER MACHINE;0HOTEL
0LOVE HOTEL;0CONVENIENCE STORE;0SCHOOL;0DEPARTMENT STORE;0FACTORY;0IZAKAYA LANTERN;0JAPANESE CASTLE
0EUROPEAN CASTLE;0WHITE PENNANT;0d PENNANT;0WAVING WHITE FLAG;1d FLAG;0ROSETTE;0d ROSETTE;0LABEL
0BADMINTON RACQUET AND SHUTTLECOCK;0BOW AND b;0AMPHORA;0EMOJI MODIFIER FITZPATRICK TYPE-1-2;3TYPE-3
3TYPE-4;3TYPE-5;3TYPE-6;0RAT;0MOUSE;0OX;0WATER BUFFALO;0COW;0TIGER;0LEOPARD;0RABBIT;0CAT;0DRAGON
0CROCODILE;0WHALE;0SNAIL;0SNAKE;0HORSE;0RAM;0GOAT;0SHEEP;0MONKEY;0ROOSTER;0CHICKEN;0DOG;0PIG;0BOAR
0ELEPHANT;0OCTOPUS;0SPIRAL SHELL;0BUG;0ANT;0HONEYBEE;0LADY BEETLE;0FISH;0TROPICAL FISH;0BLOWFISH
0TURTLE;0HATCHING CHICK;0BABY CHICK;0FRONT-FACING BABY CHICK;0BIRD;0PENGUIN;0KOALA;0POODLE
0DROMEDARY CAMEL;0BACTRIAN CAMEL;0DOLPHIN;0MOUSE FACE;0COW FACE;0TIGER FACE;0RABBIT FACE;0CAT FACE
0DRAGON FACE;0SPOUTING WHALE;0HORSE FACE;0MONKEY FACE;0DOG FACE;0PIG FACE;0FROG FACE;0HAMSTER FACE
0WOLF FACE;0BEAR FACE;0PANDA FACE;0PIG NOSE;0PAW PRINTS;0CHIPMUNK;0EYES;0EYE;0EAR;0NOSE;0MOUTH
0TONGUE;0WHITE UP POINTING BACKHAND INDEX;1DOWN POINTING BACKHAND INDEX;1o POINTING BACKHAND INDEX
1q POINTING BACKHAND INDEX;0FISTED HAND s;0WAVING HAND s;0OK HAND s;0THUMBS UP s;1DOWN s
0CLAPPING HANDS s;0OPEN HANDS s;0CROWN;0WOMANS HAT;0EYEGLASSES;0NECKTIE;0T-SHIRT;0JEANS;0DRESS
0KIMONO;0BIKINI;0WOMANS CLOTHES;0PURSE;0HANDBAG;0POUCH;0MANS SHOE;0ATHLETIC SHOE;0HIGH-HEELED SHOE
0WOMANS SANDAL;1BOOTS;0FOOTPRINTS;0BUST IN SILHOUETTE;0BUSTS IN SILHOUETTE;0BOY;0GIRL;0MAN;0WOMAN
0FAMILY;0MAN AND WOMAN HOLDING HANDS;0TWO MEN HOLDING HANDS;1WOMEN HOLDING HANDS;0POLICE OFFICER
0WOMAN z BUNNY EARS;0BRIDE z VEIL;0PERSON z BLOND HAIR;0MAN z GUA PI MAO;2TURBAN;0OLDER MAN;1WOMAN
0BABY;0CONSTRUCTION WORKER;0PRINCESS;0JAPANESE OGRE;1GOBLIN;0GHOST;0BABY ANGEL
0EXTRATERRESTRIAL ALIEN;0ALIEN MONSTER;0IMP;0SKULL;0INkATION DESK PERSON;0GUARDSMAN;0DANCER
0LIPSTICK;0NAIL POLISH;0FACE MASSAGE;0HAIRCUT;0BARBER POLE;0SYRINGE;0PILL;0KISS MARK;0LOVE p;0RING
0GEM STONE;0KISS;0BOUQUET;0COUPLE z HEART;0WEDDING;0BEATING HEART;0BROKEN HEART;0TWO HEARTS
0SPARKLING HEART;0GROWING HEART;0HEART z b;0BLUE HEART;0GREEN HEART;0YELLOW HEART;0PURPLE HEART
0HEART z RIBBON;0REVOLVING HEARTS;0HEART DECORATION;0DIAMOND SHAPE z A DOT INSIDE
0ELECTRIC LIGHT BULB;0ANGER v;0BOMB;0SLEEPING v;0COLLISION v;0SPLASHING SWEAT v;0DROPLET;0DASH v
0PILE OF POO;0FLEXED BICEPS;0DIZZY v;0SPEECH BALLOON;0THOUGHT BALLOON;0WHITE FLOWER
0HUNDRED POINTS v;0MONEY BAG;0CURRENCY EXCHANGE;0HEAVY DOLLAR s;0CREDIT CARD;0BANKNOTE z YEN s
2DOLLAR s;2EURO s;2POUND s;0MONEY z WINGS;0CHART z UPWARDS TREND AND YEN s;0SEAT;0PERSONAL COMPUTER
0BRIEFCASE;0MINIDISC;0FLOPPY DISK;0OPTICAL DISC;0DVD;0FILE FOLDER;0OPEN FILE FOLDER;0PAGE z CURL
1FACING UP;0CALENDAR;0TEAR-OFF CALENDAR;0CARD INDEX;0CHART z UPWARDS TREND;2DOWNWARDS TREND
0BAR CHART;0CLIPBOARD;0PUSHPIN;0ROUND PUSHPIN;0PAPERCLIP;0STRAIGHT RULER;0TRIANGULAR RULER
0BOOKMARK TABS;0LEDGER;0NOTEBOOK;1z DECORATIVE COVER;0CLOSED BOOK;0OPEN BOOK;0GREEN BOOK;0BLUE BOOK
0ORANGE BOOK;0BOOKS;0NAME BADGE;0SCROLL;0MEMO;0TELEPHONE RECEIVER;0PAGER;0FAX MACHINE
0SATELLITE ANTENNA;0PUBLIC ADDRESS LOUDSPEAKER;0CHEERING MEGAPHONE;0OUTBOX TRAY;0INBOX TRAY
0PACKAGE;0E-MAIL v;0INCOMING ENVELOPE;0ENVELOPE z DOWNWARDS b a;0CLOSED MAILBOX z LOWERED FLAG
3RAISED FLAG;0OPEN MAILBOX z RAISED FLAG;3LOWERED FLAG;0POSTBOX;0POSTAL HORN;0NEWSPAPER
0MOBILE PHONE;2z qWARDS b AT o;0VIBRATION MODE;0MOBILE PHONE OFF;0NO MOBILE PHONES;0ANTENNA z BARS
0CAMERA;1z FLASH;0VIDEO CAMERA;0TELEVISION;0RADIO;0VIDEOCASSETTE;0FILM PROJECTOR;0PORTABLE STEREO
0PRAYER BEADS;0TWISTED qWARDS bS;0CLOCKWISE qWARDS AND oWARDS OPEN f bS;7z fD ONE OVERLAY
1DOWNWARDS AND UPWARDS OPEN f bS;0ANTICLOCKWISE DOWNWARDS AND UPWARDS OPEN f bS;0LOW BqNESS v
0HIGH BqNESS v;0SPEAKER z CANCELLATION u;0SPEAKER;1z ONE SOUND WAVE;2w SOUND WAVES;0BATTERY
0ELECTRIC PLUG;0o-POINTING MAGNIFYING GLASS;0q-POINTING MAGNIFYING GLASS;0LOCK z INK PEN
0CLOSED LOCK z KEY;0KEY;0LOCK;0OPEN LOCK;0BELL;1z CANCELLATION u;0BOOKMARK;0LINK v;0RADIO BUTTON
0BACK z oWARDS b a;0END z oWARDS b a;0ON z EXCLAMATION MARK z o q b a;0SOON z qWARDS b a
0TOP z UPWARDS b a;0NO ONE UNDER EIGHTEEN v;0KEYCAP TEN;0INPUT v FOR LATIN e pS;4t pS;3NUMBERS;3vS
3LATIN pS;0FIRE;0ELECTRIC TORCH;0WRENCH;0HAMMER;0NUT AND BOLT;0HOCHO;0PISTOL;0MICROSCOPE;0TELESCOPE
0CRYSTAL BALL;0SIX POINTED STAR z MIDDLE DOT;0JAPANESE v FOR BEGINNER;0TRIDENT EMBLEM
0d SQUARE BUTTON;0WHITE SQUARE BUTTON;0LARGE RED f;1BLUE f;1ORANGE DIAMOND;1BLUE DIAMOND
0t ORANGE DIAMOND;1BLUE DIAMOND;0UP-POINTING RED x;0DOWN-POINTING RED x;0UP-POINTING t RED x
0DOWN-POINTING t RED x;0LOWER q SHADOWED WHITE f;0UPPER q SHADOWED WHITE f;0fD CROSS POMMEE
0CROSS POMMEE z HALF-f c;1POMMEE;0NOTCHED o SEMIf z w h;1q SEMIf z w h;0v FOR MARKS CHAPTER
0WHITE LATIN CROSS;0HEAVY LATIN CROSS;0CELTIC CROSS;0OM v;0DOVE OF PEACE;0KAABA;0MOSQUE;0SYNAGOGUE
0MENORAH z NINE BRANCHES;0BOWL OF HYGIEIA;0CLOCK FACE ONE OCLOCK;2TWO OCLOCK;2w OCLOCK;2FOUR OCLOCK
2FIVE OCLOCK;2SIX OCLOCK;2SEVEN OCLOCK;2EIGHT OCLOCK;2NINE OCLOCK;2TEN OCLOCK;2ELEVEN OCLOCK
2TWELVE OCLOCK;2ONE-THIRTY;2TWO-THIRTY;2w-THIRTY;2FOUR-THIRTY;2FIVE-THIRTY;2SIX-THIRTY
2SEVEN-THIRTY;2EIGHT-THIRTY;2NINE-THIRTY;2TEN-THIRTY;2ELEVEN-THIRTY;2TWELVE-THIRTY;0q SPEAKER
2z ONE SOUND WAVE;3w SOUND WAVES;0BULLHORN;1z SOUND WAVES;0RINGING BELL;0BOOK;0CANDLE
0MANTELPIECE CLOCK;0d SKULL AND CROSSBONES;0NO PIRACY;0HOLE;0MAN IN BUSINESS SUIT LEVITATING
0SLEUTH OR SPY;0DARK SUNGLASSES;0SPIDER;1WEB;0JOYSTICK;0MAN DANCING;0o HAND TELEPHONE RECEIVER
0TELEPHONE RECEIVER z PAGE;0q HAND TELEPHONE RECEIVER;0WHITE TOUCHTONE TELEPHONE
0d TOUCHTONE TELEPHONE;0TELEPHONE ON TOP OF MODEM;0CLAMSHELL MOBILE PHONE;0BACK OF ENVELOPE
0STAMPED ENVELOPE;0ENVELOPE z LIGHTNING;0FLYING ENVELOPE;0PEN OVER STAMPED ENVELOPE
0LINKED PAPERCLIPS;0d PUSHPIN;0LOWER o PENCIL;2BALLPOINT PEN;2FOUNTAIN PEN;2PAINTBRUSH;2CRAYON
0o WRITING HAND;0TURNED OK HAND s;0RAISED HAND z FINGERS SPLAYED
0REVERSED RAISED HAND z FINGERS SPLAYED;1THUMBS UP s;2DOWN s;1VICTORY HAND
1HAND z MIDDLE FINGER EXTENDED;0RAISED HAND z PART BETWEEN MIDDLE AND RING FINGERS
0WHITE DOWN POINTING o HAND INDEX;0SIDEWAYS WHITE o POINTING INDEX;2q POINTING INDEX
1d o POINTING INDEX;2q POINTING INDEX;0d o POINTING BACKHAND INDEX;1q POINTING BACKHAND INDEX
0SIDEWAYS WHITE UP POINTING INDEX;2DOWN POINTING INDEX;1d UP POINTING INDEX;2DOWN POINTING INDEX
0d UP POINTING BACKHAND INDEX;1DOWN POINTING BACKHAND INDEX;1HEART;0DESKTOP COMPUTER
0KEYBOARD AND MOUSE;0w NETWORKED COMPUTERS;0PRINTER;0POCKET CALCULATOR;0d HARD SHELL FLOPPY DISK
0WHITE HARD SHELL FLOPPY DISK;0SOFT SHELL FLOPPY DISK;0TAPE CARTRIDGE;0WIRED KEYBOARD
0ONE BUTTON MOUSE;0TWO BUTTON MOUSE;0w BUTTON MOUSE;0TRACKBALL;0OLD PERSONAL COMPUTER;0HARD DISK
0SCREEN;0PRINTER ICON;0FAX ICON;0OPTICAL DISC ICON;0DOCUMENT z TEXT;3AND PICTURE;2PICTURE
0FRAME z PICTURE;2TILES;2AN X;0d FOLDER;0FOLDER;0OPEN FOLDER;0CARD INDEX DIVIDERS;1FILE BOX
0FILE CABINET;0EMPTY NOTE;2PAGE;2PAD;0NOTE;1PAGE;1PAD;0EMPTY DOCUMENT;1PAGE;1PAGES;0DOCUMENT;0PAGE
0PAGES;0WASTEBASKET;0SPIRAL NOTE PAD;1CALENDAR PAD;0DESKTOP WINDOW;0MINIMIZE;0MAXIMIZE;0OVERLAP
0CLOCKWISE q AND o SEMIf bS;0CANCELLATION X;0INCREASE FONT SIZE v;0DECREASE FONT SIZE v
0COMPRESSION;0OLD KEY;0ROLLED-UP NEWSPAPER;0PAGE z fD TEXT;0STOCK CHART;0DAGGER KNIFE;0LIPS
0SPEAKING HEAD IN SILHOUETTE;0w RAYS a;2c;2o;2q;0o SPEECH BUBBLE;0q SPEECH BUBBLE
0TWO SPEECH BUBBLES;0w SPEECH BUBBLES;0o THOUGHT BUBBLE;0q THOUGHT BUBBLE;0o ANGER BUBBLE
0q ANGER BUBBLE;0MOOD BUBBLE;0LIGHTNING MOOD BUBBLE;1MOOD;0BALLOT BOX z BALLOT;1SCRIPT X
1BOX z SCRIPT X;1BOLD SCRIPT X;1BOX z BOLD SCRIPT X;0LIGHT CHECK MARK;0BALLOT BOX z BOLD CHECK
0WORLD MAP;0MOUNT FUJI;0TOKYO TOWER;0STATUE OF LIBERTY;0SILHOUETTE OF JAPAN;0MOYAI;0GRINNING FACE
2z SMILING EYES;0FACE z TEARS OF JOY;0SMILING FACE z OPEN MOUTH;5AND SMILING EYES;6COLD SWEAT
6TIGHTLY-CLOSED EYES;3HALO;3HORNS;0WINKING FACE;0SMILING FACE z SMILING EYES
0FACE SAVOURING DELICIOUS FOOD;0RELIEVED FACE;0SMILING FACE z HEART-SHAPED EYES;3SUNGLASSES
0SMIRKING FACE;0NEUTRAL FACE;0EXPRESSIONLESS FACE;0UNAMUSED FACE;0FACE z COLD SWEAT;0PENSIVE FACE
0CONFUSED FACE;0CONFOUNDED FACE;0KISSING FACE;0FACE THROWING A KISS;0KISSING FACE z SMILING EYES
3CLOSED EYES;0FACE z STUCK-OUT TONGUE;4AND WINKING EYE;5TIGHTLY-CLOSED EYES;0DISAPPOINTED FACE
0WORRIED FACE;0ANGRY FACE;0POUTING FACE;0CRYING FACE;0PERSEVERING FACE;0FACE z LOOK OF TRIUMPH
0DISAPPOINTED BUT RELIEVED FACE;0FROWNING FACE z OPEN MOUTH;0ANGUISHED FACE;0FEARFUL FACE
0WEARY FACE;0SLEEPY FACE;0TIRED FACE;0GRIMACING FACE;0LOUDLY CRYING FACE;0FACE z OPEN MOUTH
0HUSHED FACE;0FACE z OPEN MOUTH AND COLD SWEAT;1SCREAMING IN FEAR;0ASTONISHED FACE;0FLUSHED FACE
0SLEEPING FACE;0DIZZY FACE;0FACE zOUT MOUTH;1z MEDICAL MASK;0GRINNING CAT FACE z SMILING EYES
0CAT FACE z TEARS OF JOY;0SMILING CAT FACE z OPEN MOUTH;4HEART-SHAPED EYES;0CAT FACE z WRY SMILE
0KISSING CAT FACE z CLOSED EYES;0POUTING CAT FACE;0CRYING CAT FACE;0WEARY CAT FACE
0SLIGHTLY FROWNING FACE;1SMILING FACE;0UPSIDE-DOWN FACE;0FACE z ROLLING EYES;2NO GOOD GESTURE
2OK GESTURE;0PERSON BOWING DEEPLY;0SEE-NO-EVIL MONKEY;0HEAR-NO-EVIL MONKEY;0SPEAK-NO-EVIL MONKEY
0HAPPY PERSON RAISING ONE HAND;0PERSON RAISING BOTH HANDS IN CELEBRATION;1FROWNING;1z POUTING FACE
2FOLDED HANDS;0NORTH WEST POINTING LEAF;0SOUTH WEST POINTING LEAF;0NORTH EAST POINTING LEAF
0SOUTH EAST POINTING LEAF;0TURNED NORTH WEST POINTING LEAF;1SOUTH WEST POINTING LEAF
1NORTH EAST POINTING LEAF;1SOUTH EAST POINTING LEAF;0NORTH WEST POINTING VINE LEAF
0SOUTH WEST POINTING VINE LEAF;0NORTH EAST POINTING VINE LEAF;0SOUTH EAST POINTING VINE LEAF
0HEAVY NORTH WEST POINTING VINE LEAF;1SOUTH WEST POINTING VINE LEAF;1NORTH EAST POINTING VINE LEAF
1SOUTH EAST POINTING VINE LEAF;0NORTH WEST POINTING BUD;0SOUTH WEST POINTING BUD
0NORTH EAST POINTING BUD;0SOUTH EAST POINTING BUD;0HEAVY NORTH WEST POINTING BUD
1SOUTH WEST POINTING BUD;1NORTH EAST POINTING BUD;1SOUTH EAST POINTING BUD
0HOLLOW QUILT SQUARE ORNAMENT;4IN d SQUARE;0SOLID QUILT SQUARE ORNAMENT;4IN d SQUARE;0oWARDS ROCKET
0UPWARDS ROCKET;0qWARDS ROCKET;0DOWNWARDS ROCKET;0SCRIPT LIGATURE ET ORNAMENT
0HEAVY SCRIPT LIGATURE ET ORNAMENT;0LIGATURE OPEN ET ORNAMENT;0HEAVY LIGATURE OPEN ET ORNAMENT
1AMPERSAND ORNAMENT;0SWASH AMPERSAND ORNAMENT
0SANS-SERIF HEAVY i TURNED COMMA QUOTATION MARK ORNAMENT;3COMMA QUOTATION MARK ORNAMENT
2LOW i COMMA QUOTATION MARK ORNAMENT;0HEAVY INTERROBANG ORNAMENT;0SANS-SERIF INTERROBANG ORNAMENT
0HEAVY SANS-SERIF INTERROBANG ORNAMENT;0VERY HEAVY SOLIDUS;2REVERSE SOLIDUS;0CHECKER BOARD
0REVERSE CHECKER BOARD;0ROCKET;0HELICOPTER;0STEAM LOCOMOTIVE;0RAILWAY CAR;0HIGH-SPEED TRAIN
2z BULLET NOSE;0TRAIN;0METRO;0LIGHT RAIL;0STATION;0TRAM;1CAR;0BUS;0ONCOMING BUS;0TROLLEYBUS
0BUS STOP;0MINIBUS;0AMBULANCE;0FIRE ENGINE;0POLICE CAR;0ONCOMING POLICE CAR;0TAXI;0ONCOMING TAXI
0AUTOMOBILE;0ONCOMING AUTOMOBILE;0RECREATIONAL VEHICLE;0DELIVERY TRUCK;0ARTICULATED LORRY;0TRACTOR
0MONORAIL;0MOUNTAIN RAILWAY;0SUSPENSION RAILWAY;0MOUNTAIN CABLEWAY;0AERIAL TRAMWAY;0SHIP;0ROWBOAT
0SPEEDBOAT;0l TRAFFIC LIGHT;0y TRAFFIC LIGHT;0CONSTRUCTION s;0POLICE CARS REVOLVING LIGHT
0TRIANGULAR FLAG ON POST;0DOOR;0NO ENTRY s;0SMOKING v;0NO SMOKING v;0PUT LITTER IN ITS PLACE v
0DO NOT LITTER v;0POTABLE WATER v;0NON-POTABLE WATER v;0BICYCLE;0NO BICYCLES;0BICYCLIST
0MOUNTAIN BICYCLIST;0PEDESTRIAN;0NO PEDESTRIANS;0CHILDREN CROSSING;0MENS v;0WOMENS v;0RESTROOM
0BABY v;0TOILET;0WATER CLOSET;0SHOWER;0BATH;0BATHTUB;0PASSPORT CONTROL;0CUSTOMS;0BAGGAGE CLAIM
0o LUGGAGE;0x z ROUNDED CORNERS;0PROHIBITED s;0fD INkATION SOURCE;0BOYS v;0GIRLS v;0COUCH AND LAMP
0SLEEPING ACCOMMODATION;0SHOPPING BAGS;0BELLHOP BELL;0BED;0PLACE OF WORSHIP;0OCTAGONAL s
0SHOPPING TROLLEY;0STUPA;0PAGODA;0HINDU TEMPLE;0HUT;0ELEVATOR;1F6DD=0PLAYGROUND SLIDE;0WHEEL
0RING BUOY;0HAMMER AND WRENCH;0SHIELD;0OIL DRUM;0MOTORWAY;0RAILWAY TRACK;0MOTOR BOAT
0UP-POINTING MILITARY AIRPLANE;1AIRPLANE;1t AIRPLANE;0t AIRPLANE;0NORTHEAST-POINTING AIRPLANE
0AIRPLANE DEPARTURE;1ARRIVING;1F6F0=0SATELLITE;0ONCOMING FIRE ENGINE;0DIESEL LOCOMOTIVE
0PASSENGER SHIP;0SCOOTER;0MOTOR SCOOTER;0CANOE;0SLED;0FLYING SAUCER;0SKATEBOARD;0AUTO RICKSHAW
0PICKUP TRUCK;0ROLLER SKATE;1F700=0ALCHEMICAL v FOR QUINTESSENCE;3AIR;3FIRE;3EARTH;3WATER
3AQUAFORTIS;3AQUA REGIA;4REGIA-2;4VITAE;4VITAE-2;3VINEGAR;3VINEGAR-2;3VINEGAR-3;3SULFUR
3PHILOSOPHERS SULFUR;3d SULFUR;3MERCURY SUBLIMATE;4SUBLIMATE-2;4SUBLIMATE-3;3CINNABAR;3SALT;3NITRE
3VITRIOL;3VITRIOL-2;3ROCK SALT;4SALT-2;3GOLD;3SILVER;3IRON ORE;4ORE-2;3CROCUS OF IRON
3REGULUS OF IRON;3COPPER ORE;3IRON-COPPER ORE;3SUBLIMATE OF COPPER;3CROCUS OF COPPER;5COPPER-2
3COPPER ANTIMONIATE;3SALT OF COPPER ANTIMONIATE;3SUBLIMATE OF SALT OF COPPER;3VERDIGRIS;3TIN ORE
3LEAD ORE;3ANTIMONY ORE;3SUBLIMATE OF ANTIMONY;3SALT OF ANTIMONY;3SUBLIMATE OF SALT OF ANTIMONY
3VINEGAR OF ANTIMONY;3REGULUS OF ANTIMONY;5ANTIMONY-2;3REGULUS;3REGULUS-2;3REGULUS-3;3REGULUS-4
3ALKALI;3ALKALI-2;3MARCASITE;3SAL-AMMONIAC;3ARSENIC;3REALGAR;3REALGAR-2;3AURIPIGMENT;3BISMUTH ORE
3TARTAR;3TARTAR-2;3QUICK LIME;3BORAX;3BORAX-2;3BORAX-3;3ALUM;3OIL;3SPIRIT;3TINCTURE;3GUM;3WAX
3POWDER;3CALX;3TUTTY;3CAPUT MORTUUM;3SCEPTER OF JOVE;3CADUCEUS;3TRIDENT;3STARRED TRIDENT;3LODESTONE
3SOAP;3URINE;3HORSE DUNG;3ASHES;3POT ASHES;3BRICK;3POWDERED BRICK;3AMALGAM;3STRATUM SUPER STRATUM
5STRATUM-2;3SUBLIMATION;3PRECIPITATE;3DISTILL;3DISSOLVE;3DISSOLVE-2;3PURIFY;3PUTREFACTION;3CRUCIBLE
3CRUCIBLE-2;3CRUCIBLE-3;3CRUCIBLE-4;3CRUCIBLE-5;3ALEMBIC;3BATH OF MARY;5VAPOURS;3RETORT;3HOUR
3NIGHT;3DAY-NIGHT;3MONTH;3HALF DRAM;4OUNCE;1F780=0d o-POINTING ISOSCELES q x
1UP-POINTING ISOSCELES q x;1q-POINTING ISOSCELES q x;1DOWN-POINTING ISOSCELES q x;1SLIGHTLY t f
0MEDIUM BOLD WHITE f;0BOLD WHITE f;0HEAVY WHITE f;0VERY HEAVY WHITE f;0EXTREMELY HEAVY WHITE f
0WHITE f CONTAINING d t f;0ROUND TARGET;0d TINY SQUARE;1SLIGHTLY t SQUARE;0LIGHT WHITE SQUARE
0MEDIUM WHITE SQUARE;0BOLD WHITE SQUARE;0HEAVY WHITE SQUARE;0VERY HEAVY WHITE SQUARE
0EXTREMELY HEAVY WHITE SQUARE;0WHITE SQUARE CONTAINING d VERY t SQUARE;4MEDIUM SQUARE
0SQUARE TARGET;0d TINY DIAMOND;1VERY t DIAMOND;1MEDIUM t DIAMOND
0WHITE DIAMOND CONTAINING d VERY t DIAMOND;4MEDIUM DIAMOND;0DIAMOND TARGET;0d TINY LOZENGE
1VERY t LOZENGE;1MEDIUM t LOZENGE;0WHITE LOZENGE CONTAINING d t LOZENGE;0THIN GREEK CROSS
0LIGHT GREEK CROSS;0MEDIUM GREEK CROSS;0BOLD GREEK CROSS;0VERY BOLD GREEK CROSS;1HEAVY GREEK CROSS
0EXTREMELY HEAVY GREEK CROSS;0THIN SALTIRE;0LIGHT SALTIRE;0MEDIUM SALTIRE;0BOLD SALTIRE
0HEAVY SALTIRE;0VERY HEAVY SALTIRE;0EXTREMELY HEAVY SALTIRE;0LIGHT FIVE SPOKED ASTERISK
0MEDIUM FIVE SPOKED ASTERISK;0BOLD FIVE SPOKED ASTERISK;0HEAVY FIVE SPOKED ASTERISK
0VERY HEAVY FIVE SPOKED ASTERISK;0EXTREMELY HEAVY FIVE SPOKED ASTERISK;0LIGHT SIX SPOKED ASTERISK
0MEDIUM SIX SPOKED ASTERISK;0BOLD SIX SPOKED ASTERISK;0HEAVY SIX SPOKED ASTERISK
0VERY HEAVY SIX SPOKED ASTERISK;0EXTREMELY HEAVY SIX SPOKED ASTERISK;0LIGHT EIGHT SPOKED ASTERISK
0MEDIUM EIGHT SPOKED ASTERISK;0BOLD EIGHT SPOKED ASTERISK;0HEAVY EIGHT SPOKED ASTERISK
0VERY HEAVY EIGHT SPOKED ASTERISK;0LIGHT w POINTED d STAR;0MEDIUM w POINTED d STAR
0w POINTED d STAR;0MEDIUM w POINTED PINWHEEL STAR;0LIGHT FOUR POINTED d STAR
0MEDIUM FOUR POINTED d STAR;0FOUR POINTED d STAR;0MEDIUM FOUR POINTED PINWHEEL STAR
0REVERSE LIGHT FOUR POINTED PINWHEEL STAR;0LIGHT FIVE POINTED d STAR;0HEAVY FIVE POINTED d STAR
0MEDIUM SIX POINTED d STAR;0HEAVY SIX POINTED d STAR;0SIX POINTED PINWHEEL STAR
0MEDIUM EIGHT POINTED d STAR;0HEAVY EIGHT POINTED d STAR;0VERY HEAVY EIGHT POINTED d STAR
0HEAVY EIGHT POINTED PINWHEEL STAR;0LIGHT TWELVE POINTED d STAR;0HEAVY TWELVE POINTED d STAR
3PINWHEEL STAR;0fD x;0NEGATIVE fD x;0fD SQUARE;0NEGATIVE fD SQUARE;1F7E0=0LARGE ORANGE f;1YELLOW f
1GREEN f;1PURPLE f;1BROWN f;1RED SQUARE;1BLUE SQUARE;1ORANGE SQUARE;1YELLOW SQUARE;1GREEN SQUARE
1PURPLE SQUARE;1BROWN SQUARE;1F7F0=0HEAVY EQUALS s;1F800=0oWARDS b z t x bHEAD
0UPWARDS b z t x bHEAD;0qWARDS b z t x bHEAD;0DOWNWARDS b z t x bHEAD;0oWARDS b z MEDIUM x bHEAD
0UPWARDS b z MEDIUM x bHEAD;0qWARDS b z MEDIUM x bHEAD;0DOWNWARDS b z MEDIUM x bHEAD
0oWARDS b z LARGE x bHEAD;0UPWARDS b z LARGE x bHEAD;0qWARDS b z LARGE x bHEAD
0DOWNWARDS b z LARGE x bHEAD;1F810=0oWARDS b z t EQUILATERAL bHEAD;0UPWARDS b z t EQUILATERAL bHEAD
0qWARDS b z t EQUILATERAL bHEAD;0DOWNWARDS b z t EQUILATERAL bHEAD;0oWARDS b z EQUILATERAL bHEAD
0UPWARDS b z EQUILATERAL bHEAD;0qWARDS b z EQUILATERAL bHEAD;0DOWNWARDS b z EQUILATERAL bHEAD
0HEAVY oWARDS b z EQUILATERAL bHEAD;1UPWARDS b z EQUILATERAL bHEAD;1qWARDS b z EQUILATERAL bHEAD
1DOWNWARDS b z EQUILATERAL bHEAD;1oWARDS b z LARGE EQUILATERAL bHEAD
1UPWARDS b z LARGE EQUILATERAL bHEAD;1qWARDS b z LARGE EQUILATERAL bHEAD
1DOWNWARDS b z LARGE EQUILATERAL bHEAD;0oWARDS x-HEADED b z Nb SHAFT;0UPWARDS x-HEADED b z Nb SHAFT
0qWARDS x-HEADED b z Nb SHAFT;0DOWNWARDS x-HEADED b z Nb SHAFT;0oWARDS x-HEADED b z MEDIUM SHAFT
0UPWARDS x-HEADED b z MEDIUM SHAFT;0qWARDS x-HEADED b z MEDIUM SHAFT
0DOWNWARDS x-HEADED b z MEDIUM SHAFT;0oWARDS x-HEADED b z BOLD SHAFT
0UPWARDS x-HEADED b z BOLD SHAFT;0qWARDS x-HEADED b z BOLD SHAFT;0DOWNWARDS x-HEADED b z BOLD SHAFT
0oWARDS x-HEADED b z HEAVY SHAFT;0UPWARDS x-HEADED b z HEAVY SHAFT;0qWARDS x-HEADED b z HEAVY SHAFT
0DOWNWARDS x-HEADED b z HEAVY SHAFT;0oWARDS x-HEADED b z VERY HEAVY SHAFT
0UPWARDS x-HEADED b z VERY HEAVY SHAFT;0qWARDS x-HEADED b z VERY HEAVY SHAFT
0DOWNWARDS x-HEADED b z VERY HEAVY SHAFT;0oWARDS FINGER-POST b;0UPWARDS FINGER-POST b
0qWARDS FINGER-POST b;0DOWNWARDS FINGER-POST b;0oWARDS SQUARED b;0UPWARDS SQUARED b
0qWARDS SQUARED b;0DOWNWARDS SQUARED b;0oWARDS COMPRESSED b;0UPWARDS COMPRESSED b
0qWARDS COMPRESSED b;0DOWNWARDS COMPRESSED b;0oWARDS HEAVY COMPRESSED b;0UPWARDS HEAVY COMPRESSED b
0qWARDS HEAVY COMPRESSED b;0DOWNWARDS HEAVY COMPRESSED b;0oWARDS HEAVY b;0UPWARDS HEAVY b
0qWARDS HEAVY b;0DOWNWARDS HEAVY b;1F850=0oWARDS SANS-SERIF b;0UPWARDS SANS-SERIF b
0qWARDS SANS-SERIF b;0DOWNWARDS SANS-SERIF b;0NORTH WEST SANS-SERIF b;1EAST SANS-SERIF b
0SOUTH EAST SANS-SERIF b;1WEST SANS-SERIF b;0o q SANS-SERIF b;0UP DOWN SANS-SERIF b
1F860=0WIDE-HEADED oWARDS LIGHT BARB b;1UPWARDS LIGHT BARB b;1qWARDS LIGHT BARB b
1DOWNWARDS LIGHT BARB b;1NORTH WEST LIGHT BARB b;2EAST LIGHT BARB b;1SOUTH EAST LIGHT BARB b
2WEST LIGHT BARB b;1oWARDS BARB b;1UPWARDS BARB b;1qWARDS BARB b;1DOWNWARDS BARB b
1NORTH WEST BARB b;2EAST BARB b;1SOUTH EAST BARB b;2WEST BARB b;1oWARDS MEDIUM BARB b
1UPWARDS MEDIUM BARB b;1qWARDS MEDIUM BARB b;1DOWNWARDS MEDIUM BARB b;1NORTH WEST MEDIUM BARB b
2EAST MEDIUM BARB b;1SOUTH EAST MEDIUM BARB b;2WEST MEDIUM BARB b;1oWARDS HEAVY BARB b
1UPWARDS HEAVY BARB b;1qWARDS HEAVY BARB b;1DOWNWARDS HEAVY BARB b;1NORTH WEST HEAVY BARB b
2EAST HEAVY BARB b;1SOUTH EAST HEAVY BARB b;2WEST HEAVY BARB b;1oWARDS VERY HEAVY BARB b
1UPWARDS VERY HEAVY BARB b;1qWARDS VERY HEAVY BARB b;1DOWNWARDS VERY HEAVY BARB b
1NORTH WEST VERY HEAVY BARB b;2EAST VERY HEAVY BARB b;1SOUTH EAST VERY HEAVY BARB b
2WEST VERY HEAVY BARB b;1F890=0oWARDS x bHEAD;0UPWARDS x bHEAD;0qWARDS x bHEAD;0DOWNWARDS x bHEAD
0oWARDS WHITE b zIN x bHEAD;0UPWARDS WHITE b zIN x bHEAD;0qWARDS WHITE b zIN x bHEAD
0DOWNWARDS WHITE b zIN x bHEAD;0oWARDS b z NOTCHED TAIL;0UPWARDS b z NOTCHED TAIL
0qWARDS b z NOTCHED TAIL;0DOWNWARDS b z NOTCHED TAIL;0HEAVY b SHAFT WIDTH ONE;4TWO THIRDS;4ONE HALF
5THIRD;0oWARDS BOTTOM-SHADED WHITE b;0qWARDS BOTTOM SHADED WHITE b;0oWARDS TOP SHADED WHITE b
0qWARDS TOP SHADED WHITE b;0oWARDS o-SHADED WHITE b;0qWARDS q-SHADED WHITE b
0oWARDS q-SHADED WHITE b;0qWARDS o-SHADED WHITE b;0oWARDS BACK-TILTED SHADOWED WHITE b
0qWARDS BACK-TILTED SHADOWED WHITE b;0oWARDS FRONT-TILTED SHADOWED WHITE b
0qWARDS FRONT-TILTED SHADOWED WHITE b;0WHITE b SHAFT WIDTH ONE;4TWO THIRDS
1F8B0=0b POINTING UPWARDS THEN NORTH WEST;2qWARDS THEN CURVING SOUTH WEST
1F900=0fD CROSS kEE z FOUR h;4TWO h;2kEE;0o HALF f z FOUR h;4w h;4TWO h;4DOT;2f
0DOWNWARD FACING HOOK;2NOTCHED HOOK;2HOOK z DOT;2NOTCHED HOOK z DOT;0PINCHED FINGERS;0WHITE HEART
0BROWN HEART;0PINCHING HAND;0ZIPPER-MOUTH FACE;0MONEY-MOUTH FACE;0FACE z THERMOMETER;0NERD FACE
0THINKING FACE;0FACE z HEAD-BANDAGE;0ROBOT FACE;0HUGGING FACE;0s OF THE HORNS;0CALL ME HAND
0RAISED BACK OF HAND;0o-FACING FIST;0q-FACING FIST;0HANDSHAKE
0HAND z INDEX AND MIDDLE FINGERS CROSSED;0I LOVE YOU HAND s;0FACE z COWBOY HAT;0CLOWN FACE
0NAUSEATED FACE;0ROLLING ON THE FLOOR LAUGHING;0DROOLING FACE;0LYING FACE;0FACE PALM;0SNEEZING FACE
0FACE z ONE EYEBROW RAISED;0GRINNING FACE z STAR EYES;3ONE LARGE AND ONE t EYE
0FACE z FINGER COVERING CLOSED LIPS;0SERIOUS FACE z vS COVERING MOUTH
0SMILING FACE z SMILING EYES AND HAND COVERING MOUTH;0FACE z OPEN MOUTH VOMITING
0SHOCKED FACE z EXPLODING HEAD;0PREGNANT WOMAN;0BREAST-FEEDING;0PALMS UP TOGETHER;0SELFIE;0PRINCE
0MAN IN TUXEDO;0MOTHER CHRISTMAS;0SHRUG;0PERSON DOING CARTWHEEL;0JUGGLING;0FENCER
0MODERN PENTATHLON;0WRESTLERS;0WATER POLO;0HANDBALL;0DIVING MASK;0WILTED FLOWER;0DRUM z DRUMSTICKS
0CLINKING GLASSES;0TUMBLER GLASS;0SPOON;0GOAL NET;0RIFLE;0FIRST PLACE MEDAL;0SECOND PLACE MEDAL
0THIRD PLACE MEDAL;0BOXING GLOVE;0MARTIAL ARTS UNIk;0CURLING STONE;0LACROSSE STICK AND BALL
0SOFTBALL;0FLYING DISC;0CROISSANT;0AVOCADO;0CUCUMBER;0BACON;0POTATO;0CARROT;0BAGUETTE BREAD
0GREEN SALAD;0SHALLOW PAN OF FOOD;0STUFFED FLATBREAD;0EGG;0GLASS OF MILK;0PEANUTS;0KIWIFRUIT
0PANCAKES;0DUMPLING;0FORTUNE COOKIE;0TAKEOUT BOX;0CHOPSTICKS;0BOWL z SPOON;0CUP z STRAW;0COCONUT
0BROCCOLI;0PIE;0PRETZEL;0CUT OF MEAT;0SANDWICH;0CANNED FOOD;0LEAFY GREEN;0MANGO;0MOON CAKE;0BAGEL
0SMILING FACE z SMILING EYES AND w HEARTS;0YAWNING FACE;0SMILING FACE z TEAR
0FACE z PARTY HORN AND PARTY HAT;2UNEVEN EYES AND WAVY MOUTH;0OVERHEATED FACE;0FREEZING FACE;0NINJA
0DISGUISED FACE;0FACE HOLDING BACK TEARS;1z PLEADING EYES;0SARI;0LAB COAT;0GOGGLES;0HIKING BOOT
0FLAT SHOE;0CRAB;0LION FACE;0SCORPION;0TURKEY;0UNICORN FACE;0EAGLE;0DUCK;0BAT;0SHARK;0OWL;0FOX FACE
0BUTTERFLY;0DEER;0GORILLA;0LIZARD;0RHINOCEROS;0SHRIMP;0SQUID;0GIRAFFE FACE;0ZEBRA FACE;0HEDGEHOG
0SAUROPOD;0T-REX;0CRICKET;0KANGAROO;0LLAMA;0PEACOCK;0HIPPOPOTAMUS;0PARROT;0RACCOON;0LOBSTER
0MOSQUITO;0MICROBE;0BADGER;0SWAN;0MAMMOTH;0DODO;0SLOTH;0OTTER;0ORANGUTAN;0SKUNK;0FLAMINGO;0OYSTER
0BEAVER;0BISON;0SEAL;0GUIDE DOG;0PROBING CANE;0EMOJI g RED HAIR;2CURLY HAIR;2BALD;2WHITE HAIR;0BONE
0LEG;0FOOT;0TOOTH;0SUPERHERO;0SUPERVILLAIN;0SAFETY VEST;0EAR z HEARING AID;0MOTORIZED WHEELCHAIR
0MANUAL WHEELCHAIR;0MECHANICAL ARM;1LEG;0CHEESE WEDGE;0CUPCAKE;0SALT SHAKER;0BEVERAGE BOX;0GARLIC
0ONION;0FALAFEL;0WAFFLE;0BUTTER;0MATE DRINK;0ICE CUBE;0BUBBLE TEA;0TROLL;0STANDING PERSON
0KNEELING PERSON;0DEAF PERSON;0FACE z MONOCLE;0ADULT;0CHILD;0OLDER ADULT;0BEARDED PERSON
0PERSON z HEADSCARF;1IN STEAMY ROOM;1CLIMBING;1IN LOTUS POSITION;0MAGE;0FAIRY;0VAMPIRE;0MERPERSON
0ELF;0GENIE;0ZOMBIE;0BRAIN;0ORANGE HEART;0BILLED CAP;0SCARF;0GLOVES;0COAT;0SOCKS;0RED GIFT ENVELOPE
0FIRECRACKER;0JIGSAW PUZZLE PIECE;0TEST TUBE;0PETRI DISH;0DNA i HELIX;0COMPASS;0ABACUS
0FIRE EXTINGUISHER;0TOOLBOX;0BRICK;0MAGNET;0LUGGAGE;0LOTION BOTTLE;0SPOOL OF THREAD;0BALL OF YARN
0SAFETY PIN;0TEDDY BEAR;0BROOM;0BASKET;0ROLL OF PAPER;0BAR OF SOAP;0SPONGE;0RECEIPT;0NAZAR AMULET
0NEUTRAL CHESS KING;2QUEEN;2ROOK;2BISHOP;2KNIGHT;2PAWN
0WHITE CHESS KNIGHT ROTATED FORTY-FIVE DEGREES;0d CHESS KNIGHT ROTATED FORTY-FIVE DEGREES
0NEUTRAL CHESS KNIGHT ROTATED FORTY-FIVE DEGREES;0WHITE CHESS KING ROTATED NINETY DEGREES
2QUEEN ROTATED NINETY DEGREES;2ROOK ROTATED NINETY DEGREES;2BISHOP ROTATED NINETY DEGREES
2KNIGHT ROTATED NINETY DEGREES;2PAWN ROTATED NINETY DEGREES;0d CHESS KING ROTATED NINETY DEGREES
2QUEEN ROTATED NINETY DEGREES;2ROOK ROTATED NINETY DEGREES;2BISHOP ROTATED NINETY DEGREES
2KNIGHT ROTATED NINETY DEGREES;2PAWN ROTATED NINETY DEGREES
0NEUTRAL CHESS KING ROTATED NINETY DEGREES;2QUEEN ROTATED NINETY DEGREES
2ROOK ROTATED NINETY DEGREES;2BISHOP ROTATED NINETY DEGREES;2KNIGHT ROTATED NINETY DEGREES
2PAWN ROTATED NINETY DEGREES;0WHITE CHESS KNIGHT ROTATED ONE HUNDRED THIRTY-FIVE DEGREES
0d CHESS KNIGHT ROTATED ONE HUNDRED THIRTY-FIVE DEGREES
0NEUTRAL CHESS KNIGHT ROTATED ONE HUNDRED THIRTY-FIVE DEGREES;0WHITE CHESS TURNED KING;3QUEEN;3ROOK
3BISHOP;3KNIGHT;3PAWN;0d CHESS TURNED KING;3QUEEN;3ROOK;3BISHOP;3KNIGHT;3PAWN
0NEUTRAL CHESS TURNED KING;3QUEEN;3ROOK;3BISHOP;3KNIGHT;3PAWN
0WHITE CHESS KNIGHT ROTATED TWO HUNDRED TWENTY-FIVE DEGREES
0d CHESS KNIGHT ROTATED TWO HUNDRED TWENTY-FIVE DEGREES
0NEUTRAL CHESS KNIGHT ROTATED TWO HUNDRED TWENTY-FIVE DEGREES
0WHITE CHESS KING ROTATED TWO HUNDRED SEVENTY DEGREES;2QUEEN ROTATED TWO HUNDRED SEVENTY DEGREES
2ROOK ROTATED TWO HUNDRED SEVENTY DEGREES;2BISHOP ROTATED TWO HUNDRED SEVENTY DEGREES
2KNIGHT ROTATED TWO HUNDRED SEVENTY DEGREES;2PAWN ROTATED TWO HUNDRED SEVENTY DEGREES
0d CHESS KING ROTATED TWO HUNDRED SEVENTY DEGREES;2QUEEN ROTATED TWO HUNDRED SEVENTY DEGREES
2ROOK ROTATED TWO HUNDRED SEVENTY DEGREES;2BISHOP ROTATED TWO HUNDRED SEVENTY DEGREES
2KNIGHT ROTATED TWO HUNDRED SEVENTY DEGREES;2PAWN ROTATED TWO HUNDRED SEVENTY DEGREES
0NEUTRAL CHESS KING ROTATED TWO HUNDRED SEVENTY DEGREES;2QUEEN ROTATED TWO HUNDRED SEVENTY DEGREES
2ROOK ROTATED TWO HUNDRED SEVENTY DEGREES;2BISHOP ROTATED TWO HUNDRED SEVENTY DEGREES
2KNIGHT ROTATED TWO HUNDRED SEVENTY DEGREES;2PAWN ROTATED TWO HUNDRED SEVENTY DEGREES
0WHITE CHESS KNIGHT ROTATED w HUNDRED FIFTEEN DEGREES
0d CHESS KNIGHT ROTATED w HUNDRED FIFTEEN DEGREES
0NEUTRAL CHESS KNIGHT ROTATED w HUNDRED FIFTEEN DEGREES;0WHITE CHESS EQUIHOPPER;0d CHESS EQUIHOPPER
0NEUTRAL CHESS EQUIHOPPER;0WHITE CHESS EQUIHOPPER ROTATED NINETY DEGREES
0d CHESS EQUIHOPPER ROTATED NINETY DEGREES;0NEUTRAL CHESS EQUIHOPPER ROTATED NINETY DEGREES
0WHITE CHESS KNIGHT-QUEEN;2KNIGHT-ROOK;2KNIGHT-BISHOP;0d CHESS KNIGHT-QUEEN;2KNIGHT-ROOK
2KNIGHT-BISHOP;1FA60=0XIANGQI RED GENERAL;2MANDARIN;2ELEPHANT;2HORSE;2CHARIOT;2CANNON;2SOLDIER
1d GENERAL;2MANDARIN;2ELEPHANT;2HORSE;2CHARIOT;2CANNON;2SOLDIER;1FA70=0BALLET SHOES
0ONE-PIECE SWIMSUIT;0BRIEFS;0SHORTS;0THONG SANDAL;1FA78=0DROP OF BLOOD;0ADHESIVE BANDAGE
0STETHOSCOPE;0X-RAY;0CRUTCH;1FA80=0YO-YO;0KITE;0PARACHUTE;0BOOMERANG;0MAGIC WAND;0PINATA
0NESTING DOLLS;1FA90=0RINGED PLANET;0CHAIR;0RAZOR;0AXE;0DIYA LAMP;0BANJO;0MILITARY HELMET
0ACCORDION;0LONG DRUM;0COIN;0CARPENTRY SAW;0SCREWDRIVER;0LADDER;0HOOK;0MIRROR;0WINDOW;0PLUNGER
0SEWING NEEDLE;0KNOT;0BUCKET;0MOUSE TRAP;0TOOTHBRUSH;0HEADSTONE;0PLACARD;0ROCK;0MIRROR BALL
0IDENTIFICATION CARD;0LOW BATTERY;0HAMSA;1FAB0=0FLY;0WORM;0BEETLE;0COCKROACH;0POTTED PLANT;0WOOD
0FEATHER;0LOTUS;0CORAL;0EMPTY NEST;0NEST z EGGS;1FAC0=0ANATOMICAL HEART;0LUNGS;0PEOPLE HUGGING
0PREGNANT MAN;1PERSON;0PERSON z CROWN;1FAD0=0BLUEBERRIES;0BELL PEPPER;0OLIVE;0FLATBREAD;0TAMALE
0FONDUE;0TEAPOT;0POURING LIQUID;0BEANS;0JAR;1FAE0=0MELTING FACE;0SALUTING FACE
0FACE z OPEN EYES AND HAND OVER MOUTH;2PEEKING EYE;2DIAGONAL MOUTH;0DOTTED LINE FACE;0BITING LIP
0BUBBLES;1FAF0=0HAND z INDEX FINGER AND THUMB CROSSED;0qWARDS HAND;0oWARDS HAND;0PALM DOWN HAND
1UP HAND;0INDEX POINTING AT THE VIEWER;0HEART HANDS;1FB00=0BLOCK SEXTANT-1;1SEXTANT-2;1SEXTANT-12
1SEXTANT-3;1SEXTANT-13;1SEXTANT-23;1SEXTANT-123;1SEXTANT-4;1SEXTANT-14;1SEXTANT-24;1SEXTANT-124
1SEXTANT-34;1SEXTANT-134;1SEXTANT-234;1SEXTANT-1234;1SEXTANT-5;1SEXTANT-15;1SEXTANT-25;1SEXTANT-125
1SEXTANT-35;1SEXTANT-235;1SEXTANT-1235;1SEXTANT-45;1SEXTANT-145;1SEXTANT-245;1SEXTANT-1245
1SEXTANT-345;1SEXTANT-1345;1SEXTANT-2345;1SEXTANT-12345;1SEXTANT-6;1SEXTANT-16;1SEXTANT-26
1SEXTANT-126;1SEXTANT-36;1SEXTANT-136;1SEXTANT-236;1SEXTANT-1236;1SEXTANT-46;1SEXTANT-146
1SEXTANT-1246;1SEXTANT-346;1SEXTANT-1346;1SEXTANT-2346;1SEXTANT-12346;1SEXTANT-56;1SEXTANT-156
1SEXTANT-256;1SEXTANT-1256;1SEXTANT-356;1SEXTANT-1356;1SEXTANT-2356;1SEXTANT-12356;1SEXTANT-456
1SEXTANT-1456;1SEXTANT-2456;1SEXTANT-12456;1SEXTANT-3456;1SEXTANT-13456;1SEXTANT-23456
0LOWER o BLOCK DIAGONAL LOWER MIDDLE o TO LOWER CENTRE;9q;4UPPER MIDDLE o TO LOWER CENTRE;9q
5o TO LOWER CENTRE;1q BLOCK DIAGONAL UPPER MIDDLE o TO UPPER CENTRE;9q
4LOWER MIDDLE o TO UPPER CENTRE;9q;5o TO UPPER CENTRE;5MIDDLE o TO UPPER MIDDLE q
5CENTRE TO LOWER MIDDLE q;5o TO LOWER MIDDLE q;5CENTRE TO UPPER MIDDLE q;5o TO UPPER MIDDLE q
5CENTRE TO UPPER q;1o BLOCK DIAGONAL UPPER CENTRE TO UPPER MIDDLE q;5o TO UPPER MIDDLE q
5CENTRE TO LOWER MIDDLE q;5o TO LOWER MIDDLE q;5CENTRE TO LOWER q;5MIDDLE o TO LOWER MIDDLE q
0UPPER q BLOCK DIAGONAL LOWER MIDDLE o TO LOWER CENTRE;9q;4UPPER MIDDLE o TO LOWER CENTRE;9q
5o TO LOWER CENTRE;1o BLOCK DIAGONAL UPPER MIDDLE o TO UPPER CENTRE;9q
4LOWER MIDDLE o TO UPPER CENTRE;9q;5o TO UPPER CENTRE;5MIDDLE o TO UPPER MIDDLE q
5CENTRE TO LOWER MIDDLE q;5o TO LOWER MIDDLE q;5CENTRE TO UPPER MIDDLE q;5o TO UPPER MIDDLE q
5CENTRE TO UPPER q;1q BLOCK DIAGONAL UPPER CENTRE TO UPPER MIDDLE q;5o TO UPPER MIDDLE q
5CENTRE TO LOWER MIDDLE q;5o TO LOWER MIDDLE q;5CENTRE TO LOWER q;5MIDDLE o TO LOWER MIDDLE q
1AND q AND LOWER TRIANGULAR w QUARTERS BLOCK;0o AND LOWER AND q TRIANGULAR w QUARTERS BLOCK
0UPPER AND o AND LOWER TRIANGULAR w QUARTERS BLOCK;0o AND UPPER AND q TRIANGULAR w QUARTERS BLOCK
1TRIANGULAR ONE QUARTER BLOCK;0UPPER TRIANGULAR ONE QUARTER BLOCK;0q TRIANGULAR ONE QUARTER BLOCK
0LOWER TRIANGULAR ONE QUARTER BLOCK;0y ONE EIGHTH BLOCK-2;3BLOCK-3;3BLOCK-4;3BLOCK-5;3BLOCK-6
3BLOCK-7;0l ONE EIGHTH BLOCK-2;3BLOCK-3;3BLOCK-4;3BLOCK-5;3BLOCK-6;3BLOCK-7
0o AND LOWER ONE EIGHTH BLOCK;2UPPER ONE EIGHTH BLOCK;0q AND UPPER ONE EIGHTH BLOCK
2LOWER ONE EIGHTH BLOCK;0UPPER AND LOWER ONE EIGHTH BLOCK;0l ONE EIGHTH BLOCK-1358
0UPPER ONE QUARTER BLOCK;1w EIGHTHS BLOCK;1FIVE EIGHTHS BLOCK;1w QUARTERS BLOCK
1SEVEN EIGHTHS BLOCK;0q ONE QUARTER BLOCK;1w EIGHTHS BLOCK;1FIVE EIGHTHS BLOCK;1w QUARTERS BLOCK
1SEVEN EIGHTHS BLOCK;0o HALF MEDIUM SHADE;0q HALF MEDIUM SHADE;0UPPER HALF MEDIUM SHADE
0LOWER HALF MEDIUM SHADE;0INVERSE MEDIUM SHADE
0UPPER HALF BLOCK AND LOWER HALF INVERSE MEDIUM SHADE;2INVERSE MEDIUM SHADE AND LOWER HALF BLOCK
1FB94=0o HALF INVERSE MEDIUM SHADE AND q HALF BLOCK;0CHECKER BOARD FILL;0INVERSE CHECKER BOARD FILL
0HEAVY l FILL;0UPPER o TO LOWER q FILL;1q TO LOWER o FILL;1AND LOWER TRIANGULAR HALF BLOCK
0o AND q TRIANGULAR HALF BLOCK;0UPPER o TRIANGULAR MEDIUM SHADE;1q TRIANGULAR MEDIUM SHADE
0LOWER q TRIANGULAR MEDIUM SHADE;1o TRIANGULAR MEDIUM SHADE
0BOX DRAWINGS LIGHT DIAGONAL UPPER CENTRE TO MIDDLE o;8q;4MIDDLE o TO LOWER CENTRE
5q TO LOWER CENTRE;4UPPER CENTRE TO MIDDLE o TO LOWER CENTRE;8q TO LOWER CENTRE
4MIDDLE o TO LOWER CENTRE TO MIDDLE q;7UPPER CENTRE TO MIDDLE q
4UPPER CENTRE TO MIDDLE o AND MIDDLE q TO LOWER CENTRE;8q AND MIDDLE o TO LOWER CENTRE
9TO LOWER CENTRE TO MIDDLE o;8o TO LOWER CENTRE TO MIDDLE q
4MIDDLE o TO UPPER CENTRE TO MIDDLE q TO LOWER CENTRE
5q TO UPPER CENTRE TO MIDDLE o TO LOWER CENTRE;4DIAMOND;3l z y u;0bHEAD-SHAPED POINTER
0INVERSE CHECK MARK;0o HALF RUNNING MAN;0q HALF RUNNING MAN;0INVERSE DOWNWARDS b z TIP oWARDS
0oWARDS b AND UPPER AND LOWER ONE EIGHTH BLOCK;0qWARDS b AND UPPER AND LOWER ONE EIGHTH BLOCK
0DOWNWARDS b AND q ONE EIGHTH BLOCK;0UPWARDS b AND q ONE EIGHTH BLOCK;0o HALF FOLDER;0q HALF FOLDER
0VOIDED GREEK CROSS;0q OPEN SQUARED DOT;0NEGATIVE DIAGONAL CROSS;2MIDDLE q TO LOWER CENTRE;2DIAMOND
0WHITE HEAVY SALTIRE z ROUNDED CORNERS;0o THIRD WHITE q POINTING INDEX
0MIDDLE THIRD WHITE q POINTING INDEX;0q THIRD WHITE q POINTING INDEX
0NEGATIVE SQUARED QUESTION MARK;0STICK FIGURE;2z ARMS RAISED;2LEANING o;3q;2z DRESS
0WHITE UP-POINTING CHEVRON;1FBF0=0SEGMENTED DIGIT ZERO;2ONE;2TWO;2w;2FOUR;2FIVE;2SIX;2SEVEN;2EIGHT
2NINE;E0001=0LANGUAGE TAG;E0020=0TAG SPACE;1EXCLAMATION MARK;1QUOTATION MARK;1NUMBER s;1DOLLAR s
1PERCENT s;1AMPERSAND;1APOSTROPHE;1o PARENTHESIS;1q PARENTHESIS;1ASTERISK;1PLUS s;1COMMA
1HYPHEN-MINUS;1FULL STOP;1SOLIDUS;1DIGIT ZERO;2ONE;2TWO;2w;2FOUR;2FIVE;2SIX;2SEVEN;2EIGHT;2NINE
1COLON;1SEMICOLON;1LESS-THAN s;1EQUALS s;1GREATER-THAN s;1QUESTION MARK;1COMMERCIAL AT;1LATIN e p A
4B;4C;4D;4E;4F;4G;4H;4I;4J;4K;4L;4M;4N;4O;4P;4Q;4R;4S;4T;4U;4V;4W;4X;4Y;4Z;1o SQUARE BRACKET
1REVERSE SOLIDUS;1q SQUARE BRACKET;1CIRCUMFLEX ACCENT;1LOW LINE;1GRAVE ACCENT;1LATIN t p A;4B;4C;4D
4E;4F;4G;4H;4I;4J;4K;4L;4M;4N;4O;4P;4Q;4R;4S;4T;4U;4V;4W;4X;4Y;4Z;1o CURLY BRACKET;1y LINE
1q CURLY BRACKET;1TILDE;0CANCEL TAG;E0100=0VARIATION r-17;1r-18;1r-19;1r-20;1r-21;1r-22;1r-23;1r-24
1r-25;1r-26;1r-27;1r-28;1r-29;1r-30;1r-31;1r-32;1r-33;1r-34;1r-35;1r-36;1r-37;1r-38;1r-39;1r-40
1r-41;1r-42;1r-43;1r-44;1r-45;1r-46;1r-47;1r-48;1r-49;1r-50;1r-51;1r-52;1r-53;1r-54;1r-55;1r-56
1r-57;1r-58;1r-59;1r-60;1r-61;1r-62;1r-63;1r-64;1r-65;1r-66;1r-67;1r-68;1r-69;1r-70;1r-71;1r-72
1r-73;1r-74;1r-75;1r-76;1r-77;1r-78;1r-79;1r-80;1r-81;1r-82;1r-83;1r-84;1r-85;1r-86;1r-87;1r-88
1r-89;1r-90;1r-91;1r-92;1r-93;1r-94;1r-95;1r-96;1r-97;1r-98;1r-99;1r-100;1r-101;1r-102;1r-103
1r-104;1r-105;1r-106;1r-107;1r-108;1r-109;1r-110;1r-111;1r-112;1r-113;1r-114;1r-115;1r-116;1r-117
1r-118;1r-119;1r-120;1r-121;1r-122;1r-123;1r-124;1r-125;1r-126;1r-127;1r-128;1r-129;1r-130;1r-131
1r-132;1r-133;1r-134;1r-135;1r-136;1r-137;1r-138;1r-139;1r-140;1r-141;1r-142;1r-143;1r-144;1r-145
1r-146;1r-147;1r-148;1r-149;1r-150;1r-151;1r-152;1r-153;1r-154;1r-155;1r-156;1r-157;1r-158;1r-159
1r-160;1r-161;1r-162;1r-163;1r-164;1r-165;1r-166;1r-167;1r-168;1r-169;1r-170;1r-171;1r-172;1r-173
1r-174;1r-175;1r-176;1r-177;1r-178;1r-179;1r-180;1r-181;1r-182;1r-183;1r-184;1r-185;1r-186;1r-187
1r-188;1r-189;1r-190;1r-191;1r-192;1r-193;1r-194;1r-195;1r-196;1r-197;1r-198;1r-199;1r-200;1r-201
1r-202;1r-203;1r-204;1r-205;1r-206;1r-207;1r-208;1r-209;1r-210;1r-211;1r-212;1r-213;1r-214;1r-215
1r-216;1r-217;1r-218;1r-219;1r-220;1r-221;1r-222;1r-223;1r-224;1r-225;1r-226;1r-227;1r-228;1r-229
1r-230;1r-231;1r-232;1r-233;1r-234;1r-235;1r-236;1r-237;1r-238;1r-239;1r-240;1r-241;1r-242;1r-243
1r-244;1r-245;1r-246;1r-247;1r-248;1r-249;1r-250;1r-251;1r-252;1r-253;1r-254;1r-255;1r-256"

end TrustWeb.Text.CharacterName
