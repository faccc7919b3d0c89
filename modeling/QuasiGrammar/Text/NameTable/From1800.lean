import QuasiGrammar.Text.NameTable.Basic

/-
  QuasiGrammar.Text.NameTable.From1800
  ────────────────────────────────────
  The names of characters from 1800 on:
  Mongolian to phonetic extensions, Greek with accents, punctuation and currency.
-/

namespace QuasiGrammar.Text

/-- The runs of names that begin from `0x1800` on and before `0x2100`. -/
def namesFrom1800 : List NameRun := [
  ⟨0x1800, [
    "00MONGOLIAN BIRGA;10ELLIPSIS;10COMMA;10FULL STOP;10COLON;10FOUR DOTS;10TODO SOFT HYPHEN",
    "10SIBE SYLLABLE BOUNDARY MARKER;10MANCHU COMMA;20FULL STOP;10NIRUGU",
    "10FREE VARIATION SELECTOR ONE;40TWO;40THREE;10VOWEL SEPARATOR",
    "10FREE VARIATION SELECTOR FOUR;10DIGIT ZERO;20ONE;20TWO;20THREE;20FOUR;20FIVE;20SIX",
    "20SEVEN;20EIGHT;20NINE"]⟩,
  ⟨0x1820, [
    "00MONGOLIAN LETTER A;20E;20I;20O;20U;20OE;20UE;20EE;20NA;20ANG;20BA;20PA;20QA;20GA;20MA",
    "20LA;20SA;20SHA;20TA;20DA;20CHA;20JA;20YA;20RA;20WA;20FA;20KA;20KHA;20TSA;20ZA;20HAA;20ZRA",
    "20LHA;20ZHI;20CHI;20TODO LONG VOWEL SIGN;30E;30I;30O;30U;30OE;30UE;30ANG;30BA;30PA;30QA",
    "30GA;30MA;30TA;30DA;30CHA;30JA;30TSA;30YA;30WA;30KA;30GAA;30HAA;30JIA;30NIA;30DZA;20SIBE E",
    "30I;30IY;30UE;30U;30ANG;30KA;30GA;30HA;30PA;30SHA;30TA;30DA;30JA;30FA;30GAA;30HAA;30TSA",
    "30ZA;30RAA;30CHA;30ZHA;20MANCHU I;30KA;30RA;30FA;30ZHA;20CHA WITH TWO DOTS"]⟩,
  ⟨0x1880, [
    "00MONGOLIAN LETTER ALI GALI ANUSVARA ONE;41VISARGA;40DAMARU;40UBADAMA;41INVERTED;40BALUDA",
    "41THREE;40A;40I;40KA;40NGA;40CA;40TTA;40TTHA;40DDA;40NNA;40TA;40DA;40PA;40PHA;40SSA;40ZHA",
    "40ZA;40AH;20TODO ALI GALI TA;50ZHA;20MANCHU ALI GALI GHA;50NGA;50CA;50JHA;50TTA;50DDHA",
    "50TA;50DHA;50SSA;50CYA;50ZHA;50ZA;20ALI GALI HALF U;50YA;20MANCHU ALI GALI BHA",
    "20ALI GALI DAGALGA;20MANCHU ALI GALI LHA"]⟩,
  ⟨0x18b0, [
    "00CANADIAN SYLLABICS OY;20AY;20AAY;20WAY;20POY;20PAY;20PWOY;20TAY;20KAY;20KWAY;20MAY;20NOY",
    "20NAY;20LAY;20SOY;20SAY;20SHOY;20SHAY;20SHWOY;20YOY;20YAY;20RAY;20NWI;21OJIBWAY;20NWII",
    "21OJIBWAY;20NWO;21OJIBWAY;20NWOO;21OJIBWAY;20RWEE;20RWI;20RWII;20RWO;20RWOO;20RWA",
    "20OJIBWAY P;30T;30K;30C;30M;30N;30S;30SH;20EASTERN W;21WESTERN;20FINAL SMALL RING",
    "30RAISED DOT;20R-CREE RWE;20WEST-CREE LOO;30LAA;20THWE;20THWA;20TTHWE;20TTHOO;20TTHAA",
    "20TLHWE;20TLHOO;20SAYISI SHWE;30SHOO;30HOO;20CARRIER GWU;30DENE GEE;30GAA;30GWA",
    "20SAYISI JUU;20CARRIER JWA;20BEAVER DENE L;40R;20CARRIER DENTAL S"]⟩,
  ⟨0x1900, [
    "00LIMBU VOWEL-CARRIER LETTER;10LETTER KA;20KHA;20GA;20GHA;20NGA;20CA;20CHA;20JA;20JHA",
    "20YAN;20TA;20THA;20DA;20DHA;20NA;20PA;20PHA;20BA;20BHA;20MA;20YA;20RA;20LA;20WA;20SHA",
    "20SSA;20SA;20HA;20GYAN;20TRA"]⟩,
  ⟨0x1920, [
    "00LIMBU VOWEL SIGN A;30I;30U;30EE;30AI;30OO;30AU;30E;30O;10SUBJOINED LETTER YA;30RA;30WA"]⟩,
  ⟨0x1930, [
    "00LIMBU SMALL LETTER KA;30NGA;30ANUSVARA;30TA;30NA;30PA;30MA;30RA;30LA;10SIGN MUKPHRENG",
    "20KEMPHRENG;20SA-I"]⟩,
  ⟨0x1940, ["00LIMBU SIGN LOO"]⟩,
  ⟨0x1944, [
    "00LIMBU EXCLAMATION MARK;11QUESTION;10DIGIT ZERO;20ONE;20TWO;20THREE;20FOUR;20FIVE;20SIX",
    "20SEVEN;20EIGHT;20NINE;00TAI LE LETTER KA;30XA;30NGA;30TSA;30SA;30YA;30TA;30THA;30LA;30PA",
    "30PHA;30MA;30FA;30VA;30HA;30QA;30KHA;30TSHA;30NA;30A;30I;30EE;30EH;30U;30OO;30O;30UE;30E",
    "30AUE;30AI"]⟩,
  ⟨0x1970, ["00TAI LE LETTER TONE-2;30TONE-3;30TONE-4;30TONE-5;30TONE-6"]⟩,
  ⟨0x1980, [
    "00NEW TAI LUE LETTER HIGH QA;41LOW;40HIGH KA;50XA;50NGA;40LOW KA;50XA;50NGA;40HIGH TSA",
    "50SA;50YA;40LOW TSA;50SA;50YA;40HIGH TA;50THA;50NA;40LOW TA;50THA;50NA;40HIGH PA;50PHA",
    "50MA;40LOW PA;50PHA;50MA;40HIGH FA;50VA;50LA;40LOW FA;50VA;50LA;40HIGH HA;50DA;50BA",
    "40LOW HA;50DA;50BA;40HIGH KVA;50XVA;40LOW KVA;50XVA;40HIGH SUA;41LOW"]⟩,
  ⟨0x19b0, [
    "00NEW TAI LUE VOWEL SIGN VOWEL SHORTENER;50AA;50II;50U;50UU;50E;50AE;50O;50OA;50UE;50AY",
    "50AAY;50UY;50OY;50OAY;50UEY;50IY;30LETTER FINAL V;50NG;50N;50M;50K;50D;50B;30TONE MARK-1",
    "40MARK-2"]⟩,
  ⟨0x19d0, [
    "00NEW TAI LUE DIGIT ZERO;40ONE;40TWO;40THREE;40FOUR;40FIVE;40SIX;40SEVEN;40EIGHT;40NINE",
    "30THAM DIGIT ONE"]⟩,
  ⟨0x19de, [
    "00NEW TAI LUE SIGN LAE;40LAEV;00KHMER SYMBOL PATHAMASAT;20MUOY KOET;21PII;21BEI;21BUON",
    "21PRAM;21PRAM-MUOY;21PRAM-PII;21PRAM-BEI;21PRAM-BUON;21DAP;21DAP-MUOY;21DAP-PII;21DAP-BEI",
    "21DAP-BUON;21DAP-PRAM;20TUTEYASAT;20MUOY ROC;21PII;21BEI;21BUON;21PRAM;21PRAM-MUOY",
    "21PRAM-PII;21PRAM-BEI;21PRAM-BUON;21DAP;21DAP-MUOY;21DAP-PII;21DAP-BEI;21DAP-BUON",
    "21DAP-PRAM;00BUGINESE LETTER KA;20GA;20NGA;20NGKA;20PA;20BA;20MA;20MPA;20TA;20DA;20NA",
    "20NRA;20CA;20JA;20NYA;20NYCA;20YA;20RA;20LA;20VA;20SA;20A;20HA;10VOWEL SIGN I;30U;30E;30O",
    "30AE"]⟩,
  ⟨0x1a1e, [
    "00BUGINESE PALLAWA;10END OF SECTION;00TAI THAM LETTER HIGH KA;40KHA;40KXA;30LOW KA;40KXA",
    "40KHA;30NGA;30HIGH CA;40CHA;30LOW CA;40SA;40CHA;30NYA;30RATA;30HIGH RATHA;30DA;30LOW RATHA",
    "30RANA;30HIGH TA;40THA;30LOW TA;40THA;30NA;30BA;30HIGH PA;40PHA;40FA;30LOW PA;40FA;40PHA",
    "30MA;30LOW YA;31HIGH;30RA;30RUE;30LA;30LUE;30WA;30HIGH SHA;40SSA;40SA;40HA;30LLA;30A",
    "30LOW HA;30I;30II;30U;30UU;30EE;30OO;30LAE;30GREAT SA;20CONSONANT SIGN MEDIAL RA;50LA",
    "40LA TANG LAI;21SIGN MAI KANG;20CONSONANT SIGN FINAL NGA;40LOW PA;42HIGH RATHA OR;40MA",
    "40BA;40SA"]⟩,
  ⟨0x1a60, [
    "00TAI THAM SIGN SAKOT;20VOWEL SIGN A;40MAI SAT;40AA;41TALL;40I;40II;40UE;40UUE;40U;40UU",
    "40O;40OA BELOW;40OY;40E;40AE;40OO;40AI;41THAM;40OA ABOVE;20SIGN MAI KANG;30TONE-1;30TONE-2",
    "30KHUEN TONE-3;40TONE-4;40TONE-5;30RA HAAM;30MAI SAM;30KHUEN-LUE KARAN"]⟩,
  ⟨0x1a7f, [
    "00TAI THAM COMBINING CRYPTOGRAMMIC DOT;20HORA DIGIT ZERO;40ONE;40TWO;40THREE;40FOUR;40FIVE",
    "40SIX;40SEVEN;40EIGHT;40NINE"]⟩,
  ⟨0x1a90, [
    "00TAI THAM THAM DIGIT ZERO;40ONE;40TWO;40THREE;40FOUR;40FIVE;40SIX;40SEVEN;40EIGHT;40NINE"]⟩,
  ⟨0x1aa0, [
    "00TAI THAM SIGN WIANG;30WIANGWAAK;30SAWAN;30KEOW;30HOY;30DOKMAI;30REVERSED ROTATED RANA",
    "30MAI YAMOK;30KAAN;30KAANKUU;30SATKAAN;30SATKAANKUU;30HANG;30CAANG"]⟩,
  ⟨0x1ab0, [
    "00COMBINING DOUBLED CIRCUMFLEX ACCENT;10DIAERESIS-RING;10INFINITY;10DOWNWARDS ARROW",
    "10TRIPLE DOT;10X-X BELOW;11WIGGLY LINE;11OPEN MARK;13DOUBLE;11LIGHT CENTRALIZATION STROKE",
    "13STRONG;10PARENTHESES ABOVE;12DOUBLE;10PARENTHESES BELOW;20OVERLAY",
    "10LATIN SMALL LETTER W BELOW;42TURNED;10LEFT PARENTHESIS ABOVE LEFT",
    "10RIGHT PARENTHESIS ABOVE RIGHT;10LEFT PARENTHESIS BELOW LEFT",
    "10RIGHT PARENTHESIS BELOW RIGHT;10SQUARE BRACKETS ABOVE;11NUMBER SIGN",
    "11INVERTED DOUBLE ARCH;11PLUS SIGN;13DOUBLE;40BELOW;10TRIPLE ACUTE ACCENT",
    "10LATIN SMALL LETTER INSULAR G;50R;50T"]⟩,
  ⟨0x1b00, [
    "00BALINESE SIGN ULU RICEM;30CANDRA;20CECEK;20SURANG;20BISAH;10LETTER AKARA;30TEDUNG",
    "20IKARA;30TEDUNG;20UKARA;30TEDUNG;20RA REPA;40TEDUNG;20LA LENGA;40TEDUNG;20EKARA;20AIKARA",
    "20OKARA;30TEDUNG;20KA;30MAHAPRANA;20GA;30GORA;20NGA;20CA;30LACA;20JA;30JERA;20NYA",
    "20TA LATIK;30MURDA MAHAPRANA;20DA MURDA ALPAPRANA;40MAHAPRANA;20NA RAMBAT;20TA;30TAWA;20DA",
    "30MADU;20NA;20PA;30KAPAL;20BA;30KEMBANG;20MA;20YA;20RA;20LA;20WA;20SA SAGA;30SAPA;30;20HA",
    "10SIGN REREKAN;10VOWEL SIGN TEDUNG;30ULU;40SARI;30SUKU;40ILUT;30RA REPA;50TEDUNG",
    "30LA LENGA;50TEDUNG;30TALING;40REPA;40TEDUNG;41REPA;30PEPET;40TEDUNG;10ADEG ADEG",
    "10LETTER KAF SASAK;21KHOT;21TZIR;21EF;21VE;21ZAL;21ASYURA;20ARCHAIC JNYA"]⟩,
  ⟨0x1b50, [
    "00BALINESE DIGIT ZERO;20ONE;20TWO;20THREE;20FOUR;20FIVE;20SIX;20SEVEN;20EIGHT;20NINE",
    "10PANTI;10PAMADA;10WINDU;10CARIK PAMUNGKAH;20SIKI;20PAREREN;10PAMENENG",
    "10MUSICAL SYMBOL DONG;30DENG;30DUNG;30DANG;40SURANG;30DING;30DAENG;30DEUNG;30DAING",
    "30DANG GEDE;30COMBINING TEGEH;40ENDEP;40KEMPUL;40KEMPLI;40JEGOGAN;41KEMPUL WITH;42KEMPLI",
    "40BENDE;40GONG;30RIGHT-HAND OPEN DUG;50DAG;40CLOSED TUK;50TAK;30LEFT-HAND OPEN PANG;50PUNG",
    "40CLOSED PLAK;50PLUK;40OPEN PING;10PANTI LANTANG;11PAMADA"]⟩,
  ⟨0x1b80, [
    "00SUNDANESE SIGN PANYECEK;20PANGLAYAR;20PANGWISAD;10LETTER A;20I;20U;20AE;20O;20E;20EU",
    "20KA;20QA;20GA;20NGA;20CA;20JA;20ZA;20NYA;20TA;20DA;20NA;20PA;20FA;20VA;20BA;20MA;20YA",
    "20RA;20LA;20WA;20SA;20XA;20HA;10CONSONANT SIGN PAMINGKAL;30PANYAKRA;30PANYIKU",
    "10VOWEL SIGN PANGHULU;30PANYUKU;30PANAELAENG;30PANOLONG;30PAMEPET;30PANEULEUNG",
    "10SIGN PAMAAEH;20VIRAMA;10CONSONANT SIGN PASANGAN MA;40WA;10LETTER KHA;20SYA;10DIGIT ZERO",
    "20ONE;20TWO;20THREE;20FOUR;20FIVE;20SIX;20SEVEN;20EIGHT;20NINE;10AVAGRAHA;10LETTER REU",
    "20LEU;20BHA;20FINAL K;30M;00BATAK LETTER A;21SIMALUNGUN;20HA;21SIMALUNGUN;21MANDAILING",
    "20BA;21KARO;20PA;21SIMALUNGUN;20NA;21MANDAILING;20WA;21SIMALUNGUN;21PAKPAK;20GA",
    "21SIMALUNGUN;20JA;20DA;20RA;21SIMALUNGUN;20MA;21SIMALUNGUN;20SOUTHERN TA;21NORTHERN;20SA",
    "21SIMALUNGUN;21MANDAILING;20YA;21SIMALUNGUN;20NGA;20LA;21SIMALUNGUN;20NYA;20CA;20NDA;20MBA",
    "20I;20U;10SIGN TOMPI;10VOWEL SIGN E;31PAKPAK;30EE;30I;31KARO;30O;31KARO;30U",
    "40FOR SIMALUNGUN SA;10CONSONANT SIGN NG;30H;10PANGOLAT;10PANONGONAN"]⟩,
  ⟨0x1bfc, [
    "00BATAK SYMBOL BINDU NA METEK;30PINARBORAS;30JUDUL;30PANGOLAT;00LEPCHA LETTER KA;20KLA",
    "20KHA;20GA;20GLA;20NGA;20CA;20CHA;20JA;20NYA;20TA;20THA;20DA;20NA;20PA;20PLA;20PHA;20FA",
    "20FLA;20BA;20BLA;20MA;20MLA;20TSA;20TSHA;20DZA;20YA;20RA;20LA;20HA;20HLA;20VA;20SA;20SHA",
    "20WA;20A;10SUBJOINED LETTER YA;30RA;10VOWEL SIGN AA;30I;30O;30OO;30U;30UU;30E",
    "10CONSONANT SIGN K;30M;30L;30N;30P;30R;30T;30NYIN-DO;30KANG;10SIGN RAN;20NUKTA"]⟩,
  ⟨0x1c3b, [
    "00LEPCHA PUNCTUATION TA-ROL;21NYET THYOOM;20CER-WA;21TSHOOK;30;10DIGIT ZERO;20ONE;20TWO",
    "20THREE;20FOUR;20FIVE;20SIX;20SEVEN;20EIGHT;20NINE"]⟩,
  ⟨0x1c4d, [
    "00LEPCHA LETTER TTA;20TTHA;20DDA;00OL CHIKI DIGIT ZERO;30ONE;30TWO;30THREE;30FOUR;30FIVE",
    "30SIX;30SEVEN;30EIGHT;30NINE;20LETTER LA;30AT;30AG;30ANG;30AL;30LAA;30AAK;30AAJ;30AAM",
    "30AAW;30LI;30IS;30IH;30INY;30IR;30LU;30UC;30UD;30UNN;30UY;30LE;30EP;30EDD;30EN;30ERR;30LO",
    "30OTT;30OB;30OV;30OH;20MU TTUDDAG;20GAAHLAA TTUDDAAG;21MU-GAAHLAA;20RELAA;20PHAARKAA",
    "20AHAD;20PUNCTUATION MUCAAD;31DOUBLE;00CYRILLIC SMALL LETTER ROUNDED VE;30LONG-LEGGED DE",
    "30NARROW O;30WIDE ES;30TALL TE;31THREE-LEGGED;30TALL HARD SIGN;40YAT;30UNBLENDED UK"]⟩,
  ⟨0x1c90, [
    "00GEORGIAN MTAVRULI CAPITAL LETTER AN;40BAN;40GAN;40DON;40EN;40VIN;40ZEN;40TAN;40IN;40KAN",
    "40LAS;40MAN;40NAR;40ON;40PAR;40ZHAR;40RAE;40SAN;40TAR;40UN;40PHAR;40KHAR;40GHAN;40QAR",
    "40SHIN;40CHIN;40CAN;40JIL;40CIL;40CHAR;40XAN;40JHAN;40HAE;40HE;40HIE;40WE;40HAR;40HOE;40FI",
    "40YN;40ELIFI;40TURNED GAN;40AIN"]⟩,
  ⟨0x1cbd, [
    "00GEORGIAN MTAVRULI CAPITAL LETTER AEN;40HARD SIGN;41LABIAL",
    "00SUNDANESE PUNCTUATION BINDU SURYA;30PANGLONG;30PURNAMA;30CAKRA;30LEU SATANGA;31KA;31DA",
    "31BA"]⟩,
  ⟨0x1cd0, [
    "00VEDIC TONE KARSHANA;20SHARA;20PRENKHA;10SIGN NIHSHVASA;20YAJURVEDIC MIDLINE SVARITA",
    "11TONE YAJURVEDIC AGGRAVATED INDEPENDENT;32;32KATHAKA;20CANDRA BELOW",
    "20YAJURVEDIC KATHAKA INDEPENDENT SVARITA SCHROEDER;20DOUBLE SVARITA;21TRIPLE",
    "20KATHAKA ANUDATTA;20DOT BELOW;21TWO DOTS;22THREE;20RIGVEDIC KASHMIRI INDEPENDENT SVARITA",
    "22ATHARVAVEDIC;11SIGN VISARGA;30UDATTA;22REVERSED;20VISARGA ANUDATTA;22REVERSED",
    "20VISARGA UDATTA WITH TAIL;32ANUDATTA;20ANUSVARA ANTARGOMUKHA;30BAHIRGOMUKHA;30VAMAGOMUKHA",
    "40WITH TAIL;20TIRYAK;20HEXIFORM LONG ANUSVARA;22;22RTHANG;20ANUSVARA UBHAYATO MUKHA",
    "20ARDHAVISARGA;21ROTATED;10TONE CANDRA ABOVE;10SIGN JIHVAMULIYA;20UPADHMANIYA;20ATIKRAMA",
    "10TONE RING ABOVE;22DOUBLE;10SIGN DOUBLE ANUSVARA ANTARGOMUKHA"]⟩,
  ⟨0x1d00, [
    "00LATIN LETTER SMALL CAPITAL A;40AE;11SMALL LETTER TURNED;10LETTER SMALL CAPITAL BARRED B",
    "40C;40D;40ETH;40E;11SMALL LETTER TURNED OPEN;40I;10LETTER SMALL CAPITAL J;40K",
    "40L WITH STROKE;40M;40REVERSED N;40O;41OPEN;11SMALL LETTER SIDEWAYS;41OPEN;40O WITH STROKE",
    "30TURNED OE;10LETTER SMALL CAPITAL OU;10SMALL LETTER TOP HALF O;32BOTTOM",
    "10LETTER SMALL CAPITAL P;40REVERSED R;41TURNED;40T;40U;11SMALL LETTER SIDEWAYS",
    "41DIAERESIZED;40TURNED M;10LETTER SMALL CAPITAL V;40W;40Z;40EZH;20VOICED LARYNGEAL SPIRANT",
    "20AIN;00GREEK LETTER SMALL CAPITAL GAMMA;40LAMDA;40PI;40RHO;40PSI",
    "00CYRILLIC LETTER SMALL CAPITAL EL;00MODIFIER LETTER CAPITAL A;30AE;30B;31BARRED;30D;30E",
    "31REVERSED;30G;30H;30I;30J;30K;30L;30M;30N;31REVERSED;30O;30OU;30P;30R;30T;30U;30W",
    "20SMALL A;31TURNED;30ALPHA;30TURNED AE;30B;30D;30E;30SCHWA;30OPEN E;32TURNED;30G",
    "30TURNED I;30K;30M;30ENG;30O;31OPEN;31TOP HALF;32BOTTOM;30P;30T;30U;31SIDEWAYS;30TURNED M",
    "30V;30AIN;30BETA;30GREEK GAMMA;30DELTA;30GREEK PHI;30CHI;00LATIN SUBSCRIPT SMALL LETTER I",
    "40R;40U;40V;00GREEK SUBSCRIPT SMALL LETTER BETA;40GAMMA;40RHO;40PHI;40CHI",
    "00LATIN SMALL LETTER UE;30B WITH MIDDLE TILDE;33D;33F;33M;33N;33P;33R;52FISHHOOK AND",
    "32S WITH;33T;33Z;30TURNED G;00MODIFIER LETTER CYRILLIC EN;00LATIN SMALL LETTER INSULAR G",
    "30TH WITH STRIKETHROUGH;20CAPITAL LETTER I WITH STROKE;22LETTER IOTA;32P",
    "22CAPITAL LETTER U;22LETTER UPSILON;30B WITH PALATAL HOOK;33D;33F;33G;33K;33L;33M;33N;33P",
    "33R;33S;33ESH;33V;33X;33Z;31A WITH RETROFLEX;33ALPHA;30D WITH HOOK AND TAIL",
    "30E WITH RETROFLEX HOOK;34OPEN;35REVERSED;33SCHWA;33I;33OPEN O;33ESH;33U;33EZH",
    "00MODIFIER LETTER SMALL TURNED ALPHA;30C;40WITH CURL;30ETH;30REVERSED OPEN E;30F",
    "30DOTLESS J WITH STROKE;30SCRIPT G;30TURNED H;30I WITH STROKE;30IOTA;30CAPITAL I",
    "50WITH STROKE;30J WITH CROSSED-TAIL;30L WITH RETROFLEX HOOK;51PALATAL;30CAPITAL L",
    "30M WITH HOOK;30TURNED M WITH LONG LEG;30N WITH LEFT HOOK;51RETROFLEX;30CAPITAL N",
    "30BARRED O;30PHI;30S WITH HOOK;30ESH;30T WITH PALATAL HOOK;30U BAR;30UPSILON;30CAPITAL U",
    "30V WITH HOOK;30TURNED V;30Z;40WITH RETROFLEX HOOK;50CURL;30EZH;30THETA",
    "00COMBINING DOTTED GRAVE ACCENT;21ACUTE;10SNAKE BELOW;10SUSPENSION MARK;10MACRON-ACUTE",
    "10GRAVE-MACRON;10MACRON-GRAVE;10ACUTE-MACRON;10GRAVE-ACUTE-GRAVE;10ACUTE-GRAVE-ACUTE",
    "10LATIN SMALL LETTER R BELOW;10BREVE-MACRON;10MACRON-BREVE;10DOUBLE CIRCUMFLEX ABOVE",
    "11OGONEK;10ZIGZAG BELOW;11IS;10UR ABOVE;11US;11LATIN SMALL LETTER FLATTENED OPEN A;40AE",
    "40AO;40AV;40C CEDILLA;40INSULAR D;40ETH;40G;21LETTER SMALL CAPITAL;20SMALL LETTER K;40L",
    "21LETTER SMALL CAPITAL;50M;20SMALL LETTER N;21LETTER SMALL CAPITAL;50R",
    "20SMALL LETTER R ROTUNDA;40S;41LONG;40Z;40ALPHA;40B;40BETA;40SCHWA;40F",
    "40L WITH DOUBLE MIDDLE TILDE;40O WITH LIGHT CENTRALIZATION STROKE;40P;40ESH",
    "40U WITH LIGHT CENTRALIZATION STROKE;40W;40A WITH DIAERESIS;42O;42U;10UP TACK ABOVE",
    "10KAVYKA ABOVE RIGHT;30LEFT;12DOT;10WIDE INVERTED BRIDGE BELOW;10DOT BELOW LEFT",
    "10DELETION MARK;10DOUBLE INVERTED BREVE BELOW;11ALMOST EQUAL TO;10LEFT ARROWHEAD ABOVE",
    "10RIGHT ARROWHEAD AND DOWN ARROWHEAD BELOW;01LATIN CAPITAL LETTER A WITH RING;15SMALL",
    "10CAPITAL LETTER B WITH DOT ABOVE;15SMALL;10CAPITAL LETTER B WITH DOT BELOW;15SMALL",
    "11CAPITAL LETTER B WITH LINE;15SMALL;10CAPITAL LETTER C WITH CEDILLA AND ACUTE;16SMALL",
    "10CAPITAL LETTER D WITH DOT ABOVE;15SMALL;10CAPITAL LETTER D WITH DOT BELOW;15SMALL",
    "11CAPITAL LETTER D WITH LINE;15SMALL;10CAPITAL LETTER D WITH CEDILLA;14SMALL",
    "10CAPITAL LETTER D WITH CIRCUMFLEX BELOW;15SMALL;10CAPITAL LETTER E WITH MACRON AND GRAVE",
    "16SMALL;10CAPITAL LETTER E WITH MACRON AND ACUTE;16SMALL",
    "10CAPITAL LETTER E WITH CIRCUMFLEX BELOW;15SMALL;11CAPITAL LETTER E WITH TILDE;15SMALL",
    "10CAPITAL LETTER E WITH CEDILLA AND BREVE;16SMALL;10CAPITAL LETTER F WITH DOT ABOVE",
    "15SMALL;10CAPITAL LETTER G WITH MACRON;14SMALL;10CAPITAL LETTER H WITH DOT ABOVE;15SMALL",
    "10CAPITAL LETTER H WITH DOT BELOW;15SMALL;10CAPITAL LETTER H WITH DIAERESIS;14SMALL",
    "10CAPITAL LETTER H WITH CEDILLA;14SMALL;10CAPITAL LETTER H WITH BREVE BELOW;15SMALL",
    "11CAPITAL LETTER I WITH TILDE;15SMALL;10CAPITAL LETTER I WITH DIAERESIS AND ACUTE;16SMALL",
    "11CAPITAL LETTER K WITH;14SMALL;10CAPITAL LETTER K WITH DOT BELOW;15SMALL",
    "11CAPITAL LETTER K WITH LINE;15SMALL;11CAPITAL LETTER L WITH DOT;15SMALL",
    "10CAPITAL LETTER L WITH DOT BELOW AND MACRON;17SMALL;10CAPITAL LETTER L WITH LINE BELOW",
    "15SMALL;11CAPITAL LETTER L WITH CIRCUMFLEX;15SMALL;10CAPITAL LETTER M WITH ACUTE;14SMALL",
    "10CAPITAL LETTER M WITH DOT ABOVE;15SMALL;10CAPITAL LETTER M WITH DOT BELOW;15SMALL",
    "10CAPITAL LETTER N WITH DOT ABOVE;15SMALL;10CAPITAL LETTER N WITH DOT BELOW;15SMALL",
    "11CAPITAL LETTER N WITH LINE;15SMALL;11CAPITAL LETTER N WITH CIRCUMFLEX;15SMALL",
    "10CAPITAL LETTER O WITH TILDE AND ACUTE;16SMALL",
    "10CAPITAL LETTER O WITH TILDE AND DIAERESIS;16SMALL",
    "10CAPITAL LETTER O WITH MACRON AND GRAVE;16SMALL;10CAPITAL LETTER O WITH MACRON AND ACUTE",
    "16SMALL;11CAPITAL LETTER P WITH;14SMALL;10CAPITAL LETTER P WITH DOT ABOVE;15SMALL",
    "13CAPITAL LETTER R;15SMALL;10CAPITAL LETTER R WITH DOT BELOW;15SMALL",
    "10CAPITAL LETTER R WITH DOT BELOW AND MACRON;17SMALL;10CAPITAL LETTER R WITH LINE BELOW",
    "15SMALL;10CAPITAL LETTER S WITH DOT ABOVE;15SMALL;10CAPITAL LETTER S WITH DOT BELOW",
    "15SMALL;10CAPITAL LETTER S WITH ACUTE AND DOT ABOVE;17SMALL;13CAPITAL LETTER S WITH CARON",
    "17SMALL;13CAPITAL LETTER S WITH DOT BELOW;18SMALL;12CAPITAL LETTER T WITH;15SMALL",
    "10CAPITAL LETTER T WITH DOT BELOW;15SMALL;11CAPITAL LETTER T WITH LINE;15SMALL",
    "11CAPITAL LETTER T WITH CIRCUMFLEX;15SMALL;11CAPITAL LETTER U WITH DIAERESIS;15SMALL",
    "11CAPITAL LETTER U WITH TILDE;15SMALL;11CAPITAL LETTER U WITH CIRCUMFLEX;15SMALL",
    "10CAPITAL LETTER U WITH TILDE AND ACUTE;16SMALL",
    "10CAPITAL LETTER U WITH MACRON AND DIAERESIS;16SMALL;10CAPITAL LETTER V WITH TILDE;14SMALL",
    "10CAPITAL LETTER V WITH DOT BELOW;15SMALL;10CAPITAL LETTER W WITH GRAVE;14SMALL",
    "10CAPITAL LETTER W WITH ACUTE;14SMALL;10CAPITAL LETTER W WITH DIAERESIS;14SMALL",
    "10CAPITAL LETTER W WITH DOT ABOVE;15SMALL;10CAPITAL LETTER W WITH DOT BELOW;15SMALL",
    "10CAPITAL LETTER X WITH DOT ABOVE;15SMALL;10CAPITAL LETTER X WITH DIAERESIS;14SMALL",
    "10CAPITAL LETTER Y WITH DOT ABOVE;15SMALL;10CAPITAL LETTER Z WITH CIRCUMFLEX;14SMALL",
    "10CAPITAL LETTER Z WITH DOT BELOW;15SMALL;11CAPITAL LETTER Z WITH LINE;15SMALL;33H",
    "30T WITH DIAERESIS;30W WITH RING ABOVE;33Y;30A WITH RIGHT HALF RING",
    "30LONG S WITH DOT ABOVE;60DIAGONAL STROKE;61HIGH;10CAPITAL LETTER SHARP S",
    "10SMALL LETTER DELTA;10CAPITAL LETTER A WITH DOT BELOW;15SMALL",
    "10CAPITAL LETTER A WITH HOOK ABOVE;15SMALL;10CAPITAL LETTER A WITH CIRCUMFLEX AND ACUTE",
    "16SMALL;10CAPITAL LETTER A WITH CIRCUMFLEX AND GRAVE;16SMALL",
    "10CAPITAL LETTER A WITH CIRCUMFLEX AND HOOK ABOVE;17SMALL",
    "10CAPITAL LETTER A WITH CIRCUMFLEX AND TILDE;16SMALL",
    "10CAPITAL LETTER A WITH CIRCUMFLEX AND DOT BELOW;17SMALL",
    "10CAPITAL LETTER A WITH BREVE AND ACUTE;16SMALL;10CAPITAL LETTER A WITH BREVE AND GRAVE",
    "16SMALL;10CAPITAL LETTER A WITH BREVE AND HOOK ABOVE;17SMALL",
    "10CAPITAL LETTER A WITH BREVE AND TILDE;16SMALL",
    "10CAPITAL LETTER A WITH BREVE AND DOT BELOW;17SMALL;12CAPITAL LETTER E WITH;15SMALL",
    "10CAPITAL LETTER E WITH HOOK ABOVE;15SMALL;10CAPITAL LETTER E WITH TILDE;14SMALL",
    "10CAPITAL LETTER E WITH CIRCUMFLEX AND ACUTE;16SMALL",
    "10CAPITAL LETTER E WITH CIRCUMFLEX AND GRAVE;16SMALL",
    "10CAPITAL LETTER E WITH CIRCUMFLEX AND HOOK ABOVE;17SMALL",
    "10CAPITAL LETTER E WITH CIRCUMFLEX AND TILDE;16SMALL",
    "10CAPITAL LETTER E WITH CIRCUMFLEX AND DOT BELOW;17SMALL",
    "10CAPITAL LETTER I WITH HOOK ABOVE;15SMALL;10CAPITAL LETTER I WITH DOT BELOW;15SMALL",
    "13CAPITAL LETTER O;15SMALL;10CAPITAL LETTER O WITH HOOK ABOVE;15SMALL",
    "10CAPITAL LETTER O WITH CIRCUMFLEX AND ACUTE;16SMALL",
    "10CAPITAL LETTER O WITH CIRCUMFLEX AND GRAVE;16SMALL",
    "10CAPITAL LETTER O WITH CIRCUMFLEX AND HOOK ABOVE;17SMALL",
    "10CAPITAL LETTER O WITH CIRCUMFLEX AND TILDE;16SMALL",
    "10CAPITAL LETTER O WITH CIRCUMFLEX AND DOT BELOW;17SMALL",
    "10CAPITAL LETTER O WITH HORN AND ACUTE;16SMALL;10CAPITAL LETTER O WITH HORN AND GRAVE",
    "16SMALL;10CAPITAL LETTER O WITH HORN AND HOOK ABOVE;17SMALL",
    "10CAPITAL LETTER O WITH HORN AND TILDE;16SMALL;10CAPITAL LETTER O WITH HORN AND DOT BELOW",
    "17SMALL;12CAPITAL LETTER U WITH;15SMALL;10CAPITAL LETTER U WITH HOOK ABOVE;15SMALL",
    "10CAPITAL LETTER U WITH HORN AND ACUTE;16SMALL;10CAPITAL LETTER U WITH HORN AND GRAVE",
    "16SMALL;10CAPITAL LETTER U WITH HORN AND HOOK ABOVE;17SMALL",
    "10CAPITAL LETTER U WITH HORN AND TILDE;16SMALL;10CAPITAL LETTER U WITH HORN AND DOT BELOW",
    "17SMALL;10CAPITAL LETTER Y WITH GRAVE;14SMALL;10CAPITAL LETTER Y WITH DOT BELOW;15SMALL",
    "10CAPITAL LETTER Y WITH HOOK ABOVE;15SMALL;10CAPITAL LETTER Y WITH TILDE;14SMALL",
    "10CAPITAL LETTER MIDDLE-WELSH LL;13SMALL;10CAPITAL LETTER MIDDLE-WELSH V;13SMALL",
    "10CAPITAL LETTER Y WITH LOOP;14SMALL;00GREEK SMALL LETTER ALPHA WITH PSILI;50DASIA",
    "50PSILI AND VARIA;52DASIA;50PSILI AND OXIA;52DASIA;50PSILI AND PERISPOMENI;52DASIA",
    "10CAPITAL LETTER ALPHA WITH PSILI;50DASIA;50PSILI AND VARIA;52DASIA;50PSILI AND OXIA",
    "52DASIA;50PSILI AND PERISPOMENI;52DASIA;10SMALL LETTER EPSILON WITH PSILI;50DASIA",
    "50PSILI AND VARIA;52DASIA;50PSILI AND OXIA;52DASIA"]⟩,
  ⟨0x1f18, [
    "00GREEK CAPITAL LETTER EPSILON WITH PSILI;50DASIA;50PSILI AND VARIA;52DASIA",
    "50PSILI AND OXIA;52DASIA"]⟩,
  ⟨0x1f20, [
    "00GREEK SMALL LETTER ETA WITH PSILI;50DASIA;50PSILI AND VARIA;52DASIA;50PSILI AND OXIA",
    "52DASIA;50PSILI AND PERISPOMENI;52DASIA;10CAPITAL LETTER ETA WITH PSILI;50DASIA",
    "50PSILI AND VARIA;52DASIA;50PSILI AND OXIA;52DASIA;50PSILI AND PERISPOMENI;52DASIA",
    "10SMALL LETTER IOTA WITH PSILI;50DASIA;50PSILI AND VARIA;52DASIA;50PSILI AND OXIA;52DASIA",
    "50PSILI AND PERISPOMENI;52DASIA;10CAPITAL LETTER IOTA WITH PSILI;50DASIA;50PSILI AND VARIA",
    "52DASIA;50PSILI AND OXIA;52DASIA;50PSILI AND PERISPOMENI;52DASIA",
    "10SMALL LETTER OMICRON WITH PSILI;50DASIA;50PSILI AND VARIA;52DASIA;50PSILI AND OXIA",
    "52DASIA"]⟩,
  ⟨0x1f48, [
    "00GREEK CAPITAL LETTER OMICRON WITH PSILI;50DASIA;50PSILI AND VARIA;52DASIA",
    "50PSILI AND OXIA;52DASIA"]⟩,
  ⟨0x1f50, [
    "00GREEK SMALL LETTER UPSILON WITH PSILI;50DASIA;50PSILI AND VARIA;52DASIA;50PSILI AND OXIA",
    "52DASIA;50PSILI AND PERISPOMENI;52DASIA"]⟩,
  ⟨0x1f59, ["00GREEK CAPITAL LETTER UPSILON WITH DASIA"]⟩,
  ⟨0x1f5b, ["00GREEK CAPITAL LETTER UPSILON WITH DASIA AND VARIA"]⟩,
  ⟨0x1f5d, ["00GREEK CAPITAL LETTER UPSILON WITH DASIA AND OXIA"]⟩,
  ⟨0x1f5f, [
    "00GREEK CAPITAL LETTER UPSILON WITH DASIA AND PERISPOMENI;10SMALL LETTER OMEGA WITH PSILI",
    "50DASIA;50PSILI AND VARIA;52DASIA;50PSILI AND OXIA;52DASIA;50PSILI AND PERISPOMENI;52DASIA",
    "10CAPITAL LETTER OMEGA WITH PSILI;50DASIA;50PSILI AND VARIA;52DASIA;50PSILI AND OXIA",
    "52DASIA;50PSILI AND PERISPOMENI;52DASIA;10SMALL LETTER ALPHA WITH VARIA;50OXIA",
    "30EPSILON WITH VARIA;50OXIA;30ETA WITH VARIA;50OXIA;30IOTA WITH VARIA;50OXIA",
    "30OMICRON WITH VARIA;50OXIA;30UPSILON WITH VARIA;50OXIA;30OMEGA WITH VARIA;50OXIA"]⟩,
  ⟨0x1f80, [
    "00GREEK SMALL LETTER ALPHA WITH PSILI AND YPOGEGRAMMENI;52DASIA;52PSILI AND VARIA;54DASIA",
    "52PSILI AND OXIA;54DASIA;52PSILI AND PERISPOMENI;54DASIA",
    "10CAPITAL LETTER ALPHA WITH PSILI AND PROSGEGRAMMENI;52DASIA;52PSILI AND VARIA;54DASIA",
    "52PSILI AND OXIA;54DASIA;52PSILI AND PERISPOMENI;54DASIA",
    "10SMALL LETTER ETA WITH PSILI AND YPOGEGRAMMENI;52DASIA;52PSILI AND VARIA;54DASIA",
    "52PSILI AND OXIA;54DASIA;52PSILI AND PERISPOMENI;54DASIA",
    "10CAPITAL LETTER ETA WITH PSILI AND PROSGEGRAMMENI;52DASIA;52PSILI AND VARIA;54DASIA",
    "52PSILI AND OXIA;54DASIA;52PSILI AND PERISPOMENI;54DASIA",
    "10SMALL LETTER OMEGA WITH PSILI AND YPOGEGRAMMENI;52DASIA;52PSILI AND VARIA;54DASIA",
    "52PSILI AND OXIA;54DASIA;52PSILI AND PERISPOMENI;54DASIA",
    "10CAPITAL LETTER OMEGA WITH PSILI AND PROSGEGRAMMENI;52DASIA;52PSILI AND VARIA;54DASIA",
    "52PSILI AND OXIA;54DASIA;52PSILI AND PERISPOMENI;54DASIA;10SMALL LETTER ALPHA WITH VRACHY",
    "50MACRON;50VARIA AND YPOGEGRAMMENI;51;51OXIA AND"]⟩,
  ⟨0x1fb6, [
    "00GREEK SMALL LETTER ALPHA WITH PERISPOMENI;60AND YPOGEGRAMMENI",
    "10CAPITAL LETTER ALPHA WITH VRACHY;50MACRON;50VARIA;50OXIA;50PROSGEGRAMMENI;10KORONIS",
    "10PROSGEGRAMMENI;10PSILI;10PERISPOMENI;11DIALYTIKA AND",
    "10SMALL LETTER ETA WITH VARIA AND YPOGEGRAMMENI;51;51OXIA AND"]⟩,
  ⟨0x1fc6, [
    "00GREEK SMALL LETTER ETA WITH PERISPOMENI;60AND YPOGEGRAMMENI",
    "10CAPITAL LETTER EPSILON WITH VARIA;50OXIA;30ETA WITH VARIA;50OXIA;50PROSGEGRAMMENI",
    "10PSILI AND VARIA;30OXIA;30PERISPOMENI;10SMALL LETTER IOTA WITH VRACHY;50MACRON",
    "50DIALYTIKA AND VARIA;70OXIA"]⟩,
  ⟨0x1fd6, [
    "00GREEK SMALL LETTER IOTA WITH PERISPOMENI;51DIALYTIKA AND",
    "10CAPITAL LETTER IOTA WITH VRACHY;50MACRON;50VARIA;50OXIA"]⟩,
  ⟨0x1fdd, [
    "00GREEK DASIA AND VARIA;30OXIA;30PERISPOMENI;10SMALL LETTER UPSILON WITH VRACHY;50MACRON",
    "50DIALYTIKA AND VARIA;70OXIA;30RHO WITH PSILI;50DASIA;30UPSILON WITH PERISPOMENI",
    "51DIALYTIKA AND;10CAPITAL LETTER UPSILON WITH VRACHY;50MACRON;50VARIA;50OXIA",
    "30RHO WITH DASIA;10DIALYTIKA AND VARIA;30OXIA;10VARIA"]⟩,
  ⟨0x1ff2, ["00GREEK SMALL LETTER OMEGA WITH VARIA AND YPOGEGRAMMENI;51;51OXIA AND"]⟩,
  ⟨0x1ff6, [
    "00GREEK SMALL LETTER OMEGA WITH PERISPOMENI;60AND YPOGEGRAMMENI",
    "10CAPITAL LETTER OMICRON WITH VARIA;50OXIA;30OMEGA WITH VARIA;50OXIA;50PROSGEGRAMMENI",
    "10OXIA;10DASIA"]⟩,
  ⟨0x2000, [
    "00EN QUAD;01EM;00EN SPACE;01EM;01THREE-PER-EM;01FOUR-PER-EM;01SIX-PER-EM;01FIGURE",
    "01PUNCTUATION;01THIN;01HAIR;01ZERO WIDTH;20NON-JOINER;20JOINER;00LEFT-TO-RIGHT MARK",
    "01RIGHT-TO-LEFT;00HYPHEN;01NON-BREAKING;00FIGURE DASH;01EN;01EM;00HORIZONTAL BAR",
    "00DOUBLE VERTICAL LINE;11LOW;00LEFT SINGLE QUOTATION MARK;03RIGHT;02SINGLE LOW-9",
    "12HIGH-REVERSED-9;02LEFT DOUBLE;03RIGHT;02DOUBLE LOW-9;12HIGH-REVERSED-9;00DAGGER;01DOUBLE",
    "00BULLET;01TRIANGULAR;00ONE DOT LEADER;02TWO;00HORIZONTAL ELLIPSIS;00HYPHENATION POINT",
    "00LINE SEPARATOR;01PARAGRAPH;00LEFT-TO-RIGHT EMBEDDING;01RIGHT-TO-LEFT",
    "00POP DIRECTIONAL FORMATTING;00LEFT-TO-RIGHT OVERRIDE;01RIGHT-TO-LEFT",
    "00NARROW NO-BREAK SPACE;00PER MILLE SIGN;11TEN THOUSAND;00PRIME;01DOUBLE;01TRIPLE",
    "01REVERSED;11DOUBLE;11TRIPLE;00CARET;00SINGLE LEFT-POINTING ANGLE QUOTATION MARK",
    "13RIGHT-POINTING;01REFERENCE;01DOUBLE EXCLAMATION;00INTERROBANG;00OVERLINE;00UNDERTIE",
    "00CHARACTER TIE;00CARET INSERTION POINT;00ASTERISM;00HYPHEN BULLET;00FRACTION SLASH",
    "00LEFT SQUARE BRACKET WITH QUILL;04RIGHT;00DOUBLE QUESTION MARK;01QUESTION EXCLAMATION",
    "01EXCLAMATION QUESTION;00TIRONIAN SIGN ET;00REVERSED PILCROW SIGN;00BLACK LEFTWARDS BULLET",
    "11RIGHTWARDS;00LOW ASTERISK;00REVERSED SEMICOLON;00CLOSE UP",
    "00TWO ASTERISKS ALIGNED VERTICALLY;00COMMERCIAL MINUS SIGN;00SWUNG DASH",
    "00INVERTED UNDERTIE;00FLOWER PUNCTUATION MARK;00THREE DOT PUNCTUATION;00QUADRUPLE PRIME",
    "00FOUR DOT PUNCTUATION;02FIVE;02TWO;00FOUR DOT MARK;00DOTTED CROSS;00TRICOLON",
    "00VERTICAL FOUR DOTS;00MEDIUM MATHEMATICAL SPACE;00WORD JOINER;00FUNCTION APPLICATION",
    "00INVISIBLE TIMES;10SEPARATOR;10PLUS"]⟩,
  ⟨0x2066, [
    "00LEFT-TO-RIGHT ISOLATE;01RIGHT-TO-LEFT;01FIRST STRONG;01POP DIRECTIONAL",
    "00INHIBIT SYMMETRIC SWAPPING;02ACTIVATE;00INHIBIT ARABIC FORM SHAPING;03ACTIVATE",
    "00NATIONAL DIGIT SHAPES;02NOMINAL;00SUPERSCRIPT ZERO;10LATIN SMALL LETTER I"]⟩,
  ⟨0x2074, [
    "00SUPERSCRIPT FOUR;10FIVE;10SIX;10SEVEN;10EIGHT;10NINE;10PLUS SIGN;10MINUS;10EQUALS SIGN",
    "10LEFT PARENTHESIS;11RIGHT;10LATIN SMALL LETTER N;00SUBSCRIPT ZERO;10ONE;10TWO;10THREE",
    "10FOUR;10FIVE;10SIX;10SEVEN;10EIGHT;10NINE;10PLUS SIGN;10MINUS;10EQUALS SIGN",
    "10LEFT PARENTHESIS;11RIGHT"]⟩,
  ⟨0x2090, [
    "00LATIN SUBSCRIPT SMALL LETTER A;40E;40O;40X;40SCHWA;40H;40K;40L;40M;40N;40P;40S;40T"]⟩,
  ⟨0x20a0, [
    "00EURO-CURRENCY SIGN;01COLON;01CRUZEIRO;01FRENCH FRANC;01LIRA;01MILL;01NAIRA;01PESETA",
    "01RUPEE;01WON;01NEW SHEQEL;01DONG;01EURO;01KIP;01TUGRIK;01DRACHMA;01GERMAN PENNY;01PESO",
    "01GUARANI;01AUSTRAL;01HRYVNIA;01CEDI;01LIVRE TOURNOIS;01SPESMILO;01TENGE;01INDIAN RUPEE",
    "01TURKISH LIRA;01NORDIC MARK;01MANAT;01RUBLE;01LARI;01BITCOIN;01SOM"]⟩,
  ⟨0x20d0, [
    "00COMBINING LEFT HARPOON ABOVE;12RIGHT;10LONG VERTICAL LINE OVERLAY;13SHORT",
    "10ANTICLOCKWISE ARROW ABOVE;12CLOCKWISE;12LEFT;12RIGHT;10RING OVERLAY;12CLOCKWISE",
    "12ANTICLOCKWISE;10THREE DOTS ABOVE;12FOUR;10ENCLOSING CIRCLE;20SQUARE;20DIAMOND",
    "20CIRCLE BACKSLASH;10LEFT RIGHT ARROW ABOVE;10ENCLOSING SCREEN;20KEYCAP",
    "20UPWARD POINTING TRIANGLE;10REVERSE SOLIDUS OVERLAY;11DOUBLE VERTICAL STROKE",
    "10ANNUITY SYMBOL;10TRIPLE UNDERDOT;10WIDE BRIDGE ABOVE;10LEFTWARDS ARROW OVERLAY",
    "11LONG DOUBLE SOLIDUS;10RIGHTWARDS HARPOON WITH BARB DOWNWARDS;14LEFTWARDS",
    "10LEFT ARROW BELOW;12RIGHT;10ASTERISK ABOVE"]⟩]

end QuasiGrammar.Text
