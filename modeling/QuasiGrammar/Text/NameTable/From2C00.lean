import QuasiGrammar.Text.NameTable.Basic

/-
  QuasiGrammar.Text.NameTable.From2C00
  ────────────────────────────────────
  The names of characters from 2c00 on:
  Glagolitic to Georgian supplements, radicals, kana and enclosed ideographs.
-/

namespace QuasiGrammar.Text

/-- The runs of names that begin from `0x2c00` on and before `0xa000`. -/
def namesFrom2C00 : List NameRun := [
  ⟨0x2cf9, [
    "00COPTIC OLD NUBIAN FULL STOP;30DIRECT QUESTION MARK;32INDIRECT;30VERSE DIVIDER",
    "10FRACTION ONE HALF;10FULL STOP;10MORPHOLOGICAL DIVIDER;00GEORGIAN SMALL LETTER AN;30BAN",
    "30GAN;30DON;30EN;30VIN;30ZEN;30TAN;30IN;30KAN;30LAS;30MAN;30NAR;30ON;30PAR;30ZHAR;30RAE",
    "30SAN;30TAR;30UN;30PHAR;30KHAR;30GHAN;30QAR;30SHIN;30CHIN;30CAN;30JIL;30CIL;30CHAR;30XAN",
    "30JHAN;30HAE;30HE;30HIE;30WE;30HAR;30HOE"]⟩,
  ⟨0x2d27, ["00GEORGIAN SMALL LETTER YN"]⟩,
  ⟨0x2d2d, ["00GEORGIAN SMALL LETTER AEN"]⟩,
  ⟨0x2d30, [
    "00TIFINAGH LETTER YA;20YAB;20YABH;20YAG;20YAGHH;20BERBER ACADEMY YAJ;21;20YAD;20YADH",
    "20YADD;20YADDH;20YEY;20YAF;20YAK;21TUAREG;20YAKHH;20YAH;21BERBER ACADEMY;21TUAREG;20YAHH",
    "20YAA;20YAKH;21TUAREG;20YAQ;21TUAREG;20YI;20YAZH;21AHAGGAR;21TUAREG;20YAL;20YAM;20YAN",
    "20TUAREG YAGN;30YANG;20YAP;20YU;20YAR;20YARR;20YAGH;21TUAREG;21AYER;20YAS;20YASS;20YASH",
    "20YAT;20YATH;20YACH;20YATT;20YAV;20YAW;20YAY;20YAZ;21TAWELLEMET;20YAZZ;20YE;20YO"]⟩,
  ⟨0x2d6f, ["00TIFINAGH MODIFIER LETTER LABIALIZATION MARK;11SEPARATOR"]⟩,
  ⟨0x2d7f, [
    "00TIFINAGH CONSONANT JOINER;00ETHIOPIC SYLLABLE LOA;20MOA;20ROA;20SOA;20SHOA;20BOA;20TOA",
    "20COA;20NOA;20NYOA;20GLOTTAL OA;20ZOA;20DOA;20DDOA;20JOA;20THOA;20CHOA;20PHOA;20POA;20GGWA",
    "20GGWI;20GGWEE;20GGWE"]⟩,
  ⟨0x2da0, ["00ETHIOPIC SYLLABLE SSA;20SSU;20SSI;20SSAA;20SSEE;20SSE;20SSO"]⟩,
  ⟨0x2da8, ["00ETHIOPIC SYLLABLE CCA;20CCU;20CCI;20CCAA;20CCEE;20CCE;20CCO"]⟩,
  ⟨0x2db0, ["00ETHIOPIC SYLLABLE ZZA;20ZZU;20ZZI;20ZZAA;20ZZEE;20ZZE;20ZZO"]⟩,
  ⟨0x2db8, ["00ETHIOPIC SYLLABLE CCHA;20CCHU;20CCHI;20CCHAA;20CCHEE;20CCHE;20CCHO"]⟩,
  ⟨0x2dc0, ["00ETHIOPIC SYLLABLE QYA;20QYU;20QYI;20QYAA;20QYEE;20QYE;20QYO"]⟩,
  ⟨0x2dc8, ["00ETHIOPIC SYLLABLE KYA;20KYU;20KYI;20KYAA;20KYEE;20KYE;20KYO"]⟩,
  ⟨0x2dd0, ["00ETHIOPIC SYLLABLE XYA;20XYU;20XYI;20XYAA;20XYEE;20XYE;20XYO"]⟩,
  ⟨0x2dd8, ["00ETHIOPIC SYLLABLE GYA;20GYU;20GYI;20GYAA;20GYEE;20GYE;20GYO"]⟩,
  ⟨0x2de0, [
    "00COMBINING CYRILLIC LETTER BE;30VE;30GHE;30DE;30ZHE;30ZE;30KA;30EL;30EM;30EN;30O;30PE",
    "30ER;30ES;30TE;30HA;30TSE;30CHE;30SHA;30SHCHA;30FITA;30ES-TE;30A;30IE;30DJERV",
    "30MONOGRAPH UK;30YAT;30YU;30IOTIFIED A;30LITTLE YUS;31BIG;32IOTIFIED",
    "00RIGHT ANGLE SUBSTITUTION MARKER;22DOTTED;00LEFT SUBSTITUTION BRACKET;02RIGHT",
    "02LEFT DOTTED;03RIGHT;00RAISED INTERPOLATION MARKER;12DOTTED;01DOTTED TRANSPOSITION",
    "00LEFT TRANSPOSITION BRACKET;02RIGHT;00RAISED SQUARE;00LEFT RAISED OMISSION BRACKET",
    "03RIGHT;00EDITORIAL CORONIS;00PARAGRAPHOS;01FORKED;02REVERSED;00HYPODIASTOLE",
    "00DOTTED OBELOS;00DOWNWARDS ANCORA;01UPWARDS;00DOTTED RIGHT-POINTING ANGLE",
    "00DOUBLE OBLIQUE HYPHEN;00INVERTED INTERROBANG;00PALM BRANCH;00HYPHEN WITH DIAERESIS",
    "00TILDE WITH RING ABOVE;00LEFT LOW PARAPHRASE BRACKET;03RIGHT;00TILDE WITH DOT ABOVE",
    "30BELOW;00LEFT VERTICAL BAR WITH QUILL;04RIGHT;00TOP LEFT HALF BRACKET;12RIGHT",
    "02BOTTOM LEFT;12RIGHT;01LEFT SIDEWAYS U;03RIGHT;00LEFT DOUBLE PARENTHESIS;02RIGHT",
    "00TWO DOTS OVER ONE DOT PUNCTUATION;01ONE DOT OVER TWO DOTS;01SQUARED FOUR DOT",
    "00FIVE DOT MARK;01REVERSED QUESTION;00VERTICAL TILDE;00RING POINT",
    "00WORD SEPARATOR MIDDLE DOT;00TURNED COMMA;00RAISED DOT;10COMMA;00TURNED SEMICOLON",
    "00DAGGER WITH LEFT GUARD;21RIGHT;00TURNED DAGGER;00TOP HALF SECTION SIGN;00TWO-EM DASH",
    "01THREE-EM;00STENOGRAPHIC FULL STOP;00VERTICAL SIX DOTS;00WIGGLY VERTICAL LINE;00CAPITULUM",
    "00DOUBLE HYPHEN;00REVERSED COMMA;00DOUBLE LOW-REVERSED-9 QUOTATION MARK",
    "00DASH WITH LEFT UPTURN;00DOUBLE SUSPENSION MARK;00INVERTED LOW KAVYKA;30WITH KAVYKA ABOVE",
    "00LOW KAVYKA;20WITH DOT;00DOUBLE STACKED COMMA;00DOTTED SOLIDUS;00TRIPLE DAGGER",
    "00MEDIEVAL COMMA;00PARAGRAPHUS MARK;01PUNCTUS ELEVATUS;00CORNISH VERSE DIVIDER",
    "00CROSS PATTY WITH RIGHT CROSSBAR;31LEFT;00TIRONIAN SIGN CAPITAL ET",
    "00MEDIEVAL EXCLAMATION MARK;11QUESTION;00LEFT SQUARE BRACKET WITH STROKE;04RIGHT",
    "01LEFT SQUARE BRACKET WITH DOUBLE;05RIGHT;00TOP HALF LEFT PARENTHESIS;21RIGHT",
    "01BOTTOM HALF LEFT;21RIGHT;00OBLIQUE HYPHEN"]⟩,
  ⟨0x2e80, [
    "00CJK RADICAL REPEAT;20CLIFF;20SECOND ONE;30TWO;30THREE;20PERSON;20BOX;20TABLE;20KNIFE ONE",
    "30TWO;20DIVINATION;20SEAL;20SMALL ONE;30TWO;20LAME ONE;30TWO;30THREE;30FOUR;20SNAKE",
    "20THREAD;20SNOUT ONE;30TWO;20HEART ONE;30TWO;20HAND;20RAP"]⟩,
  ⟨0x2e9b, [
    "00CJK RADICAL CHOKE;20SUN;20MOON;20DEATH;20MOTHER;20CIVILIAN;20WATER ONE;30TWO;20FIRE",
    "20PAW ONE;30TWO;20SIMPLIFIED HALF TREE TRUNK;20COW;20DOG;20JADE;20BOLT OF CLOTH;20EYE",
    "20SPIRIT ONE;30TWO;20BAMBOO;20SILK;21C-SIMPLIFIED;20NET ONE;30TWO;30THREE;30FOUR;20MESH",
    "20SHEEP;20RAM;20EWE;20OLD;20BRUSH ONE;30TWO;20MEAT;20MORTAR;20GRASS ONE;30TWO;30THREE",
    "20TIGER;20CLOTHES;20WEST ONE;30TWO;20C-SIMPLIFIED SEE;20SIMPLIFIED HORN;21",
    "20C-SIMPLIFIED SPEECH;30SHELL;20FOOT;20C-SIMPLIFIED CART;20SIMPLIFIED WALK;20WALK ONE",
    "30TWO;20CITY;20C-SIMPLIFIED GOLD;20LONG ONE;30TWO;20C-SIMPLIFIED LONG;30GATE;20MOUND ONE",
    "30TWO;20RAIN;20BLUE;20C-SIMPLIFIED TANNED LEATHER;30LEAF;30WIND;30FLY;20EAT ONE;30TWO",
    "30THREE;20C-SIMPLIFIED EAT;20HEAD;20C-SIMPLIFIED HORSE;20BONE;20GHOST;20C-SIMPLIFIED FISH",
    "30BIRD;30SALT;20SIMPLIFIED WHEAT;30YELLOW;20C-SIMPLIFIED FROG;20J-SIMPLIFIED EVEN",
    "21C-SIMPLIFIED;20J-SIMPLIFIED TOOTH;21C-SIMPLIFIED;20J-SIMPLIFIED DRAGON;21C-SIMPLIFIED",
    "20TURTLE;21J-SIMPLIFIED;21C-SIMPLIFIED"]⟩,
  ⟨0x2f00, [
    "00KANGXI RADICAL ONE;20LINE;20DOT;20SLASH;20SECOND;20HOOK;20TWO;20LID;20MAN;20LEGS;20ENTER",
    "20EIGHT;20DOWN BOX;20COVER;20ICE;20TABLE;20OPEN BOX;20KNIFE;20POWER;20WRAP;20SPOON",
    "20RIGHT OPEN BOX;20HIDING ENCLOSURE;20TEN;20DIVINATION;20SEAL;20CLIFF;20PRIVATE;20AGAIN",
    "20MOUTH;20ENCLOSURE;20EARTH;20SCHOLAR;20GO;30SLOWLY;20EVENING;20BIG;20WOMAN;20CHILD;20ROOF",
    "20INCH;20SMALL;20LAME;20CORPSE;20SPROUT;20MOUNTAIN;20RIVER;20WORK;20ONESELF;20TURBAN;20DRY",
    "20SHORT THREAD;20DOTTED CLIFF;20LONG STRIDE;20TWO HANDS;20SHOOT;20BOW;20SNOUT;20BRISTLE",
    "20STEP;20HEART;20HALBERD;20DOOR;20HAND;20BRANCH;20RAP;20SCRIPT;20DIPPER;20AXE;20SQUARE",
    "20NOT;20SUN;20SAY;20MOON;20TREE;20LACK;20STOP;20DEATH;20WEAPON;20DO NOT;20COMPARE;20FUR",
    "20CLAN;20STEAM;20WATER;20FIRE;20CLAW;20FATHER;20DOUBLE X;20HALF TREE TRUNK;20SLICE;20FANG",
    "20COW;20DOG;20PROFOUND;20JADE;20MELON;20TILE;20SWEET;20LIFE;20USE;20FIELD;20BOLT OF CLOTH",
    "20SICKNESS;20DOTTED TENT;20WHITE;20SKIN;20DISH;20EYE;20SPEAR;20ARROW;20STONE;20SPIRIT",
    "20TRACK;20GRAIN;20CAVE;20STAND;20BAMBOO;20RICE;20SILK;20JAR;20NET;20SHEEP;20FEATHER;20OLD",
    "20AND;20PLOW;20EAR;20BRUSH;20MEAT;20MINISTER;20SELF;20ARRIVE;20MORTAR;20TONGUE;20OPPOSE",
    "20BOAT;20STOPPING;20COLOR;20GRASS;20TIGER;20INSECT;20BLOOD;20WALK ENCLOSURE;20CLOTHES",
    "20WEST;20SEE;20HORN;20SPEECH;20VALLEY;20BEAN;20PIG;20BADGER;20SHELL;20RED;20RUN;20FOOT",
    "20BODY;20CART;20BITTER;20MORNING;20WALK;20CITY;20WINE;20DISTINGUISH;20VILLAGE;20GOLD",
    "20LONG;20GATE;20MOUND;20SLAVE;20SHORT TAILED BIRD;20RAIN;20BLUE;20WRONG;20FACE;20LEATHER",
    "21TANNED;20LEEK;20SOUND;20LEAF;20WIND;20FLY;20EAT;20HEAD;20FRAGRANT;20HORSE;20BONE;20TALL",
    "20HAIR;20FIGHT;20SACRIFICIAL WINE;20CAULDRON;20GHOST;20FISH;20BIRD;20SALT;20DEER;20WHEAT",
    "20HEMP;20YELLOW;20MILLET;20BLACK;20EMBROIDERY;20FROG;20TRIPOD;20DRUM;20RAT;20NOSE;20EVEN",
    "20TOOTH;20DRAGON;20TURTLE;20FLUTE"]⟩,
  ⟨0x2ff0, [
    "00IDEOGRAPHIC DESCRIPTION CHARACTER LEFT TO RIGHT;30ABOVE TO BELOW",
    "30LEFT TO MIDDLE AND RIGHT;30ABOVE TO MIDDLE AND BELOW;30FULL SURROUND",
    "30SURROUND FROM ABOVE;50BELOW;50LEFT;51UPPER;60RIGHT;50LOWER LEFT;30OVERLAID"]⟩,
  ⟨0x3000, [
    "00IDEOGRAPHIC SPACE;10COMMA;10FULL STOP;00DITTO MARK;00JAPANESE INDUSTRIAL STANDARD SYMBOL",
    "00IDEOGRAPHIC ITERATION MARK;11CLOSING;10NUMBER ZERO;00LEFT ANGLE BRACKET;02RIGHT",
    "02LEFT DOUBLE;03RIGHT;01LEFT CORNER;02RIGHT;02LEFT WHITE;03RIGHT;01LEFT BLACK LENTICULAR",
    "03RIGHT;00POSTAL MARK;01GETA;00LEFT TORTOISE SHELL BRACKET;03RIGHT;01LEFT WHITE LENTICULAR",
    "03RIGHT;01LEFT WHITE TORTOISE SHELL;04RIGHT;01LEFT WHITE SQUARE;03RIGHT;00WAVE DASH",
    "00REVERSED DOUBLE PRIME QUOTATION MARK;04;04LOW;00POSTAL MARK FACE;00HANGZHOU NUMERAL ONE",
    "20TWO;20THREE;20FOUR;20FIVE;20SIX;20SEVEN;20EIGHT;20NINE;00IDEOGRAPHIC LEVEL TONE MARK",
    "12RISING;12DEPARTING;12ENTERING;02HANGUL SINGLE DOT;13DOUBLE;00WAVY DASH",
    "00VERTICAL KANA REPEAT MARK;31WITH VOICED SOUND;30MARK UPPER HALF;33WITH VOICED SOUND",
    "31MARK LOWER;00CIRCLED POSTAL MARK;00IDEOGRAPHIC TELEGRAPH LINE FEED SEPARATOR SYMBOL",
    "00HANGZHOU NUMERAL TEN;20TWENTY;20THIRTY;00VERTICAL IDEOGRAPHIC ITERATION MARK;01MASU",
    "01PART ALTERNATION;00IDEOGRAPHIC VARIATION INDICATOR;10HALF FILL SPACE"]⟩,
  ⟨0x3041, [
    "00HIRAGANA LETTER SMALL A;21;20SMALL I;21;20SMALL U;21;20SMALL E;21;20SMALL O;21;20KA;20GA",
    "20KI;20GI;20KU;20GU;20KE;20GE;20KO;20GO;20SA;20ZA;20SI;20ZI;20SU;20ZU;20SE;20ZE;20SO;20ZO",
    "20TA;20DA;20TI;20DI;20SMALL TU;21;20DU;20TE;20DE;20TO;20DO;20NA;20NI;20NU;20NE;20NO;20HA",
    "20BA;20PA;20HI;20BI;20PI;20HU;20BU;20PU;20HE;20BE;20PE;20HO;20BO;20PO;20MA;20MI;20MU;20ME",
    "20MO;20SMALL YA;21;20SMALL YU;21;20SMALL YO;21;20RA;20RI;20RU;20RE;20RO;20SMALL WA;21;20WI",
    "20WE;20WO;20N;20VU;20SMALL KA;30KE"]⟩,
  ⟨0x3099, [
    "00COMBINING KATAKANA-HIRAGANA VOICED SOUND MARK;22SEMI-VOICED;02KATAKANA-HIRAGANA VOICED",
    "12SEMI-VOICED;01HIRAGANA ITERATION;12VOICED;10DIGRAPH YORI",
    "00KATAKANA-HIRAGANA DOUBLE HYPHEN;00KATAKANA LETTER SMALL A;21;20SMALL I;21;20SMALL U;21",
    "20SMALL E;21;20SMALL O;21;20KA;20GA;20KI;20GI;20KU;20GU;20KE;20GE;20KO;20GO;20SA;20ZA;20SI",
    "20ZI;20SU;20ZU;20SE;20ZE;20SO;20ZO;20TA;20DA;20TI;20DI;20SMALL TU;21;20DU;20TE;20DE;20TO",
    "20DO;20NA;20NI;20NU;20NE;20NO;20HA;20BA;20PA;20HI;20BI;20PI;20HU;20BU;20PU;20HE;20BE;20PE",
    "20HO;20BO;20PO;20MA;20MI;20MU;20ME;20MO;20SMALL YA;21;20SMALL YU;21;20SMALL YO;21;20RA",
    "20RI;20RU;20RE;20RO;20SMALL WA;21;20WI;20WE;20WO;20N;20VU;20SMALL KA;30KE;20VA;20VI;20VE",
    "20VO;10MIDDLE DOT;00KATAKANA-HIRAGANA PROLONGED SOUND MARK;01KATAKANA ITERATION;12VOICED",
    "10DIGRAPH KOTO"]⟩,
  ⟨0x3105, [
    "00BOPOMOFO LETTER B;20P;20M;20F;20D;20T;20N;20L;20G;20K;20H;20J;20Q;20X;20ZH;20CH;20SH;20R",
    "20Z;20C;20S;20A;20O;20E;20EH;20AI;20EI;20AU;20OU;20AN;20EN;20ANG;20ENG;20ER;20I;20U;20IU",
    "20V;20NG;20GN;20IH;20O WITH DOT ABOVE;20NN"]⟩,
  ⟨0x3131, [
    "00HANGUL LETTER KIYEOK;20SSANGKIYEOK;20KIYEOK-SIOS;20NIEUN;20NIEUN-CIEUC;20NIEUN-HIEUH",
    "20TIKEUT;20SSANGTIKEUT;20RIEUL;20RIEUL-KIYEOK;20RIEUL-MIEUM;20RIEUL-PIEUP;20RIEUL-SIOS",
    "20RIEUL-THIEUTH;20RIEUL-PHIEUPH;20RIEUL-HIEUH;20MIEUM;20PIEUP;20SSANGPIEUP;20PIEUP-SIOS",
    "20SIOS;20SSANGSIOS;20IEUNG;20CIEUC;20SSANGCIEUC;20CHIEUCH;20KHIEUKH;20THIEUTH;20PHIEUPH",
    "20HIEUH;20A;20AE;20YA;20YAE;20EO;20E;20YEO;20YE;20O;20WA;20WAE;20OE;20YO;20U;20WEO;20WE",
    "20WI;20YU;20EU;20YI;20I;10FILLER;10LETTER SSANGNIEUN;20NIEUN-TIKEUT;20NIEUN-SIOS",
    "20NIEUN-PANSIOS;20RIEUL-KIYEOK-SIOS;20RIEUL-TIKEUT;20RIEUL-PIEUP-SIOS;20RIEUL-PANSIOS",
    "20RIEUL-YEORINHIEUH;20MIEUM-PIEUP;20MIEUM-SIOS;20MIEUM-PANSIOS;20KAPYEOUNMIEUM",
    "20PIEUP-KIYEOK;20PIEUP-TIKEUT;20PIEUP-SIOS-KIYEOK;20PIEUP-SIOS-TIKEUT;20PIEUP-CIEUC",
    "20PIEUP-THIEUTH;20KAPYEOUNPIEUP;20KAPYEOUNSSANGPIEUP;20SIOS-KIYEOK;20SIOS-NIEUN",
    "20SIOS-TIKEUT;20SIOS-PIEUP;20SIOS-CIEUC;20PANSIOS;20SSANGIEUNG;20YESIEUNG;20YESIEUNG-SIOS",
    "20YESIEUNG-PANSIOS;20KAPYEOUNPHIEUPH;20SSANGHIEUH;20YEORINHIEUH;20YO-YA;20YO-YAE;20YO-I",
    "20YU-YEO;20YU-YE;20YU-I;20ARAEA;20ARAEAE"]⟩,
  ⟨0x3190, [
    "00IDEOGRAPHIC ANNOTATION LINKING MARK;21REVERSE;21ONE;21TWO;21THREE;21FOUR;21TOP;21MIDDLE",
    "21BOTTOM;21FIRST;21SECOND;21THIRD;21FOURTH;21HEAVEN;21EARTH;21MAN;00BOPOMOFO LETTER BU",
    "20ZI;20JI;20GU;20EE;20ENN;20OO;20ONN;20IR;20ANN;20INN;20UNN;20IM;20NGG;20AINN;20AUNN;20AM",
    "20OM;20ONG;20INNN;10FINAL LETTER P;30T;30K;30H;10LETTER GH;20LH;20ZY;10FINAL LETTER G",
    "10LETTER GW;20KW;20OE;20AH;00CJK STROKE T;20WG;20XG;20BXG;20SW;20HZZ;20HZG;20HP;20HZWG",
    "20SZWG;20HZT;20HZZP;20HPWG;20HZW;20HZZZ;20N;20H;20S;20P;20SP;20D;20HZ;20HG;20SZ;20SWZ;20ST",
    "20SG;20PD;20PZ;20TN;20SZZ;20SWG;20HXWG;20HZZZG;20PG;20Q"]⟩,
  ⟨0x31f0, [
    "00KATAKANA LETTER SMALL KU;30SI;30SU;30TO;30NU;30HA;30HI;30HU;30HE;30HO;30MU;30RA;30RI",
    "30RU;30RE;30RO;00PARENTHESIZED HANGUL KIYEOK;20NIEUN;20TIKEUT;20RIEUL;20MIEUM;20PIEUP",
    "20SIOS;20IEUNG;20CIEUC;20CHIEUCH;20KHIEUKH;20THIEUTH;20PHIEUPH;20HIEUH;20KIYEOK A;21NIEUN",
    "21TIKEUT;21RIEUL;21MIEUM;21PIEUP;21SIOS;21IEUNG;21CIEUC;21CHIEUCH;21KHIEUKH;21THIEUTH",
    "21PHIEUPH;21HIEUH;20CIEUC U;10KOREAN CHARACTER OJEON;30O HU"]⟩,
  ⟨0x3220, [
    "00PARENTHESIZED IDEOGRAPH ONE;20TWO;20THREE;20FOUR;20FIVE;20SIX;20SEVEN;20EIGHT;20NINE",
    "20TEN;20MOON;20FIRE;20WATER;20WOOD;20METAL;20EARTH;20SUN;20STOCK;20HAVE;20SOCIETY;20NAME",
    "20SPECIAL;20FINANCIAL;20CONGRATULATION;20LABOR;20REPRESENT;20CALL;20STUDY;20SUPERVISE",
    "20ENTERPRISE;20RESOURCE;20ALLIANCE;20FESTIVAL;20REST;20SELF;20REACH",
    "00CIRCLED IDEOGRAPH QUESTION;20KINDERGARTEN;20SCHOOL;20KOTO;10NUMBER TEN ON BLACK SQUARE",
    "23TWENTY;23THIRTY;23FORTY;23FIFTY;23SIXTY;23SEVENTY;23EIGHTY;00PARTNERSHIP SIGN",
    "00CIRCLED NUMBER TWENTY ONE;30TWO;30THREE;30FOUR;30FIVE;30SIX;30SEVEN;30EIGHT;30NINE",
    "20THIRTY;30ONE;30TWO;30THREE;30FOUR;30FIVE;10HANGUL KIYEOK;20NIEUN;20TIKEUT;20RIEUL",
    "20MIEUM;20PIEUP;20SIOS;20IEUNG;20CIEUC;20CHIEUCH;20KHIEUKH;20THIEUTH;20PHIEUPH;20HIEUH",
    "20KIYEOK A;21NIEUN;21TIKEUT;21RIEUL;21MIEUM;21PIEUP;21SIOS;21IEUNG;21CIEUC;21CHIEUCH",
    "21KHIEUKH;21THIEUTH;21PHIEUPH;21HIEUH;10KOREAN CHARACTER CHAMKO;30JUEUI;10HANGUL IEUNG U",
    "00KOREAN STANDARD SYMBOL;00CIRCLED IDEOGRAPH ONE;20TWO;20THREE;20FOUR;20FIVE;20SIX;20SEVEN",
    "20EIGHT;20NINE;20TEN;20MOON;20FIRE;20WATER;20WOOD;20METAL;20EARTH;20SUN;20STOCK;20HAVE",
    "20SOCIETY;20NAME;20SPECIAL;20FINANCIAL;20CONGRATULATION;20LABOR;20SECRET;20MALE;20FEMALE",
    "20SUITABLE;20EXCELLENT;20PRINT;20ATTENTION;20ITEM;20REST;20COPY;20CORRECT;20HIGH;20CENTRE",
    "20LOW;20LEFT;20RIGHT;20MEDICINE;20RELIGION;20STUDY;20SUPERVISE;20ENTERPRISE;20RESOURCE",
    "20ALLIANCE;20NIGHT;10NUMBER THIRTY SIX;30SEVEN;30EIGHT;30NINE;20FORTY;30ONE;30TWO;30THREE",
    "30FOUR;30FIVE;30SIX;30SEVEN;30EIGHT;30NINE;20FIFTY",
    "00IDEOGRAPHIC TELEGRAPH SYMBOL FOR JANUARY;40FEBRUARY;40MARCH;40APRIL;40MAY;40JUNE;40JULY",
    "40AUGUST;40SEPTEMBER;40OCTOBER;40NOVEMBER;40DECEMBER;00SQUARE HG;10ERG;10EV",
    "00LIMITED LIABILITY SIGN;00CIRCLED KATAKANA A;20I;20U;20E;20O;20KA;20KI;20KU;20KE;20KO",
    "20SA;20SI;20SU;20SE;20SO;20TA;20TI;20TU;20TE;20TO;20NA;20NI;20NU;20NE;20NO;20HA;20HI;20HU",
    "20HE;20HO;20MA;20MI;20MU;20ME;20MO;20YA;20YU;20YO;20RA;20RI;20RU;20RE;20RO;20WA;20WI;20WE",
    "20WO;00SQUARE ERA NAME REIWA;10APAATO;10ARUHUA;10ANPEA;10AARU;10ININGU;10INTI;10UON",
    "10ESUKUUDO;10EEKAA;10ONSU;10OOMU;10KAIRI;10KARATTO;10KARORII;10GARON;10GANMA;10GIGA",
    "10GINII;10KYURII;10GIRUDAA;10KIRO;10KIROGURAMU;10KIROMEETORU;10KIROWATTO;10GURAMU",
    "10GURAMUTON;10KURUZEIRO;10KUROONE;10KEESU;10KORUNA;10KOOPO;10SAIKURU;10SANTIIMU;10SIRINGU",
    "10SENTI;10SENTO;10DAASU;10DESI;10DORU;10TON;10NANO;10NOTTO;10HAITU;10PAASENTO;10PAATU",
    "10BAARERU;10PIASUTORU;10PIKURU;10PIKO;10BIRU;10HUARADDO;10HUIITO;10BUSSYERU;10HURAN",
    "10HEKUTAARU;10PESO;10PENIHI;10HERUTU;10PENSU;10PEEZI;10BEETA;10POINTO;10BORUTO;10HON",
    "10PONDO;10HOORU;10HOON;10MAIKURO;10MAIRU;10MAHHA;10MARUKU;10MANSYON;10MIKURON;10MIRI",
    "10MIRIBAARU;10MEGA;10MEGATON;10MEETORU;10YAADO;10YAARU;10YUAN;10RITTORU;10RIRA;10RUPII",
    "10RUUBURU;10REMU;10RENTOGEN;10WATTO;00IDEOGRAPHIC TELEGRAPH SYMBOL FOR HOUR ZERO;50ONE",
    "50TWO;50THREE;50FOUR;50FIVE;50SIX;50SEVEN;50EIGHT;50NINE;50TEN;50ELEVEN;50TWELVE",
    "50THIRTEEN;50FOURTEEN;50FIFTEEN;50SIXTEEN;50SEVENTEEN;50EIGHTEEN;50NINETEEN;50TWENTY",
    "50TWENTY-ONE;50TWENTY-TWO;50TWENTY-THREE;50TWENTY-FOUR;00SQUARE HPA;10DA;10AU;10BAR;10OV",
    "10PC;10DM;20SQUARED;20CUBED;10IU;10ERA NAME HEISEI;30SYOUWA;30TAISYOU;30MEIZI",
    "10CORPORATION;10PA AMPS;10NA;10MU A;10MA;10KA;10KB;10MB;10GB;10CAL;10KCAL;10PF;10NF;10MU F",
    "20G;10MG;10KG;10HZ;10KHZ;10MHZ;10GHZ;10THZ;10MU L;10ML;10DL;10KL;10FM;10NM;10MU M;10MM",
    "10CM;10KM;10MM SQUARED;11CM;11M;11KM;10MM CUBED;11CM;11M;11KM;10M OVER S;40SQUARED;10PA",
    "10KPA;10MPA;10GPA;10RAD;20OVER S;40SQUARED;10PS;10NS;10MU S;10MS;10PV;10NV;10MU V;10MV",
    "10KV;10MV MEGA;10PW;10NW;10MU W;10MW;10KW;10MW MEGA;10K OHM;11M;10AM;10BQ;10CC;10CD",
    "10C OVER KG;10CO;10DB;10GY;10HA;10HP;10IN;10KK;10KM CAPITAL;10KT;10LM;10LN;10LOG;10LX",
    "10MB SMALL;10MIL;10MOL;10PH;10PM;10PPM;10PR;10SR;10SV;10WB;10V OVER M;12A",
    "00IDEOGRAPHIC TELEGRAPH SYMBOL FOR DAY ONE;50TWO;50THREE;50FOUR;50FIVE;50SIX;50SEVEN",
    "50EIGHT;50NINE;50TEN;50ELEVEN;50TWELVE;50THIRTEEN;50FOURTEEN;50FIFTEEN;50SIXTEEN",
    "50SEVENTEEN;50EIGHTEEN;50NINETEEN;50TWENTY;50TWENTY-ONE;50TWENTY-TWO;50TWENTY-THREE",
    "50TWENTY-FOUR;50TWENTY-FIVE;50TWENTY-SIX;50TWENTY-SEVEN;50TWENTY-EIGHT;50TWENTY-NINE",
    "50THIRTY;50THIRTY-ONE;00SQUARE GAL"]⟩,
  ⟨0x4dc0, [
    "00HEXAGRAM FOR THE CREATIVE HEAVEN;30RECEPTIVE EARTH;20DIFFICULTY AT THE BEGINNING",
    "20YOUTHFUL FOLLY;20WAITING;20CONFLICT;20THE ARMY;20HOLDING TOGETHER;20SMALL TAMING",
    "20TREADING;20PEACE;20STANDSTILL;20FELLOWSHIP;20GREAT POSSESSION;20MODESTY;20ENTHUSIASM",
    "20FOLLOWING;20WORK ON THE DECAYED;20APPROACH;20CONTEMPLATION;20BITING THROUGH;20GRACE",
    "20SPLITTING APART;20RETURN;20INNOCENCE;20GREAT TAMING;20MOUTH CORNERS",
    "20GREAT PREPONDERANCE;20THE ABYSMAL WATER;30CLINGING FIRE;20INFLUENCE;20DURATION;20RETREAT",
    "20GREAT POWER;20PROGRESS;20DARKENING OF THE LIGHT;20THE FAMILY;20OPPOSITION;20OBSTRUCTION",
    "20DELIVERANCE;20DECREASE;20INCREASE;20BREAKTHROUGH;20COMING TO MEET;20GATHERING TOGETHER",
    "20PUSHING UPWARD;20OPPRESSION;20THE WELL;20REVOLUTION;20THE CAULDRON;30AROUSING THUNDER",
    "30KEEPING STILL MOUNTAIN;20DEVELOPMENT;20THE MARRYING MAIDEN;20ABUNDANCE;20THE WANDERER",
    "30GENTLE WIND;30JOYOUS LAKE;20DISPERSION;20LIMITATION;20INNER TRUTH;20SMALL PREPONDERANCE",
    "20AFTER COMPLETION;21BEFORE"]⟩]

end QuasiGrammar.Text
