import QuasiGrammar.Text.NameTable.Basic

/-
  QuasiGrammar.Text.NameTable.From1E000
  ─────────────────────────────────────
  The names of characters from 1e000 on:
  Glagolitic letters to Arabic mathematics, tiles, cards and pictographs.
-/

namespace QuasiGrammar.Text

/-- The runs of names that begin from `0x1e000` on and before `0x1f400`. -/
def namesFrom1E000 : List NameRun := [
  ⟨0x1e000, [
    "00COMBINING GLAGOLITIC LETTER AZU;30BUKY;30VEDE;30GLAGOLI;30DOBRO;30YESTU;30ZHIVETE"]⟩,
  ⟨0x1e008, [
    "00COMBINING GLAGOLITIC LETTER ZEMLJA;30IZHE;31INITIAL;30I;30DJERVI;30KAKO;30LJUDIJE",
    "30MYSLITE;30NASHI;30ONU;30POKOJI;30RITSI;30SLOVO;30TVRIDO;30UKU;30FRITU;30HERU"]⟩,
  ⟨0x1e01b, ["00COMBINING GLAGOLITIC LETTER SHTA;30TSI;30CHRIVI;30SHA;30YERU;30YERI;30YATI"]⟩,
  ⟨0x1e023, ["00COMBINING GLAGOLITIC LETTER YU;30SMALL YUS"]⟩,
  ⟨0x1e026, ["00COMBINING GLAGOLITIC LETTER YO;30IOTATED SMALL YUS;31BIG;32IOTATED;30FITA"]⟩,
  ⟨0x1e100, [
    "00NYIAKENG PUACHUE HMONG LETTER MA;40TSA;40NTA;40TA;40HA;40NA;40XA;40NKA;40CA;40LA;40SA",
    "40ZA;40NCA;40NTSA;40KA;40DA;40NYA;40NRA;40VA;40NTXA;40TXA;40FA;40RA;40QA;40YA;40NQA;40PA",
    "40XYA;40NPA;40DLA;40NPLA;40HAH;40MLA;40PLA;40GA;40RRA;40A;40AA;40I;40U;40O;40OO;40E;40EE",
    "40W"]⟩,
  ⟨0x1e130, [
    "00NYIAKENG PUACHUE HMONG TONE-B;30TONE-M;30TONE-J;30TONE-V;30TONE-S;30TONE-G;30TONE-D",
    "30SIGN FOR PERSON;50THING;50LOCATION;50ANIMAL;50INVERTEBRATE;40XW XW;30SYLLABLE LENGTHENER"]⟩,
  ⟨0x1e140, [
    "00NYIAKENG PUACHUE HMONG DIGIT ZERO;40ONE;40TWO;40THREE;40FOUR;40FIVE;40SIX;40SEVEN",
    "40EIGHT;40NINE"]⟩,
  ⟨0x1e14e, ["00NYIAKENG PUACHUE HMONG LOGOGRAM NYAJ;30CIRCLED CA"]⟩,
  ⟨0x1e290, [
    "00TOTO LETTER PA;20BA;20TA;20DA;20KA;20GA;20MA;20NA;20NGA;20SA;20CHA;20YA;20WA;20JA;20HA",
    "20RA;20LA;20I;21BREATHY;20IU;21BREATHY;20U;20E;21BREATHY;20EO;21BREATHY;20O;20AE;21BREATHY",
    "20A;10SIGN RISING TONE"]⟩,
  ⟨0x1e2c0, [
    "00WANCHO LETTER AA;20A;20BA;20CA;20DA;20GA;20YA;20PHA;20LA;20NA;20PA;20TA;20THA;20FA;20SA",
    "20SHA;20JA;20ZA;20WA;20VA;20KA;20O;20AU;20RA;20MA;20KHA;20HA;20E;20I;20NGA;20U;20LLHA",
    "20TSA;20TRA;20ONG;20AANG;20ANG;20ING;20ON;20EN;20AAN;20NYA;20UEN;20YIH;10TONE TUP;20TUPNI",
    "20KOI;20KOINI;10DIGIT ZERO;20ONE;20TWO;20THREE;20FOUR;20FIVE;20SIX;20SEVEN;20EIGHT;20NINE"]⟩,
  ⟨0x1e2ff, ["00WANCHO NGUN SIGN"]⟩,
  ⟨0x1e7e0, ["00ETHIOPIC SYLLABLE HHYA;20HHYU;20HHYI;20HHYAA;20HHYEE;20HHYE;20HHYO"]⟩,
  ⟨0x1e7e8, ["00ETHIOPIC SYLLABLE GURAGE HHWA;20HHWI;20HHWEE;20HHWE"]⟩,
  ⟨0x1e7ed, ["00ETHIOPIC SYLLABLE GURAGE MWI;30MWEE"]⟩,
  ⟨0x1e7f0, [
    "00ETHIOPIC SYLLABLE GURAGE QWI;30QWEE;30QWE;30BWI;30BWEE;30KWI;30KWEE;30KWE;30GWI;30GWEE",
    "30GWE;30FWI;30FWEE;30PWI;30PWEE"]⟩,
  ⟨0x1e800, [
    "00MENDE KIKAKUI SYLLABLE M001 KI;30M002 KA;30M003 KU;30M065 KEE;30M095 KE;30M076 KOO",
    "30M048 KO;30M179 KUA;30M004 WI;30M005 WA;30M006 WU;30M126 WEE;30M118 WE;30M114 WOO",
    "30M045 WO;30M194 WUI;30M143 WEI;30M061 WVI;30M049 WVA;30M139 WVE;30M007 MIN;30M008 MAN",
    "30M009 MUN;30M059 MEN;30M094 MON;30M154 MUAN;30M189 MUEN;30M010 BI;30M011 BA;30M012 BU",
    "30M150 BEE;30M097 BE;30M103 BOO;30M138 BO;30M013 I;30M014 A;30M015 U;30M163 EE;30M100 E",
    "30M165 OO;30M147 O;30M137 EI;30M131 IN;31M135;30M195 AN;30M178 EN;30M019 SI;30M020 SA",
    "30M021 SU;30M162 SEE;30M116 SE;30M136 SOO;30M079 SO;30M196 SIA;30M025 LI;30M026 LA",
    "30M027 LU;30M084 LEE;30M073 LE;30M054 LOO;30M153 LO;30M110 LONG LE;30M016 DI;30M017 DA",
    "30M018 DU;30M089 DEE;30M180 DOO;30M181 DO;30M022 TI;30M023 TA;30M024 TU;30M091 TEE",
    "30M055 TE;30M104 TOO;30M069 TO;30M028 JI;30M029 JA;30M030 JU;30M157 JEE;30M113 JE",
    "30M160 JOO;30M063 JO;31M175 LONG;30M031 YI;30M032 YA;30M033 YU;30M109 YEE;30M080 YE",
    "30M141 YOO;30M121 YO;30M034 FI;30M035 FA;30M036 FU;30M078 FEE;30M075 FE;30M133 FOO",
    "30M088 FO;30M197 FUA;30M101 FAN;30M037 NIN;30M038 NAN;30M039 NUN;30M117 NEN;30M169 NON",
    "30M176 HI;30M041 HA;30M186 HU;30M040 HEE;30M096 HE;30M042 HOO;30M140 HO;30M083 HEEI",
    "30M128 HOOU;30M053 HIN;30M130 HAN;30M087 HUN;30M052 HEN;30M193 HON;30M046 HUAN;30M090 NGGI",
    "30M043 NGGA;30M082 NGGU;30M115 NGGEE;30M146 NGGE;30M156 NGGOO;30M120 NGGO;30M159 NGGAA",
    "30M127 NGGUA;30M086 LONG NGGE;30M106 LONG NGGOO;30M183 LONG NGGO;30M155 GI;30M111 GA",
    "30M168 GU;30M190 GEE;30M166 GUEI;30M167 GUAN;30M184 NGEN;30M057 NGON;30M177 NGUAN",
    "30M068 PI;30M099 PA;30M050 PU;30M081 PEE;30M051 PE;30M102 POO;30M066 PO;30M145 MBI",
    "30M062 MBA;30M122 MBU;30M047 MBEE;31M188;30M072 MBE;30M172 MBOO;30M174 MBO;30M187 MBUU",
    "30M161 LONG MBE;30M105 LONG MBOO;30M142 LONG MBO;30M132 KPI;30M092 KPA;30M074 KPU",
    "30M044 KPEE;30M108 KPE;30M112 KPOO;30M158 KPO;30M124 GBI;30M056 GBA;30M148 GBU;30M093 GBEE",
    "30M107 GBE;30M071 GBOO;30M070 GBO;30M171 RA;30M123 NDI;30M129 NDA;30M125 NDU;30M191 NDEE",
    "30M119 NDE;30M067 NDOO;30M064 NDO;30M152 NJA;30M192 NJU;30M149 NJEE;30M134 NJOO;30M182 VI",
    "30M185 VA;30M151 VU;30M173 VEE;30M085 VE;30M144 VOO;30M077 VO;30M164 NYIN;30M058 NYAN",
    "30M170 NYUN;30M098 NYEN;30M060 NYON"]⟩,
  ⟨0x1e8c7, [
    "00MENDE KIKAKUI DIGIT ONE;30TWO;30THREE;30FOUR;30FIVE;30SIX;30SEVEN;30EIGHT;30NINE",
    "20COMBINING NUMBER TEENS;40TENS;40HUNDREDS;40THOUSANDS;41TEN;41HUNDRED;40MILLIONS"]⟩,
  ⟨0x1e900, [
    "00ADLAM CAPITAL LETTER ALIF;30DAALI;30LAAM;30MIIM;30BA;30SINNYIIYHE;30PE;30BHE;30RA;30E",
    "30FA;30I;30O;30DHA;30YHE;30WAW;30NUN;30KAF;30YA;30U;30JIIM;30CHI;30HA;30QAAF;30GA;30NYA",
    "30TU;30NHA;30VA;30KHA;30GBE;30ZAL;30KPO;30SHA;10SMALL LETTER ALIF;30DAALI;30LAAM;30MIIM",
    "30BA;30SINNYIIYHE;30PE;30BHE;30RA;30E;30FA;30I;30O;30DHA;30YHE;30WAW;30NUN;30KAF;30YA;30U",
    "30JIIM;30CHI;30HA;30QAAF;30GA;30NYA;30TU;30NHA;30VA;30KHA;30GBE;30ZAL;30KPO;30SHA",
    "10ALIF LENGTHENER;11VOWEL;10GEMINATION MARK;10HAMZA;10CONSONANT MODIFIER;12GEMINATE",
    "10NUKTA;10NASALIZATION MARK"]⟩,
  ⟨0x1e950, [
    "00ADLAM DIGIT ZERO;20ONE;20TWO;20THREE;20FOUR;20FIVE;20SIX;20SEVEN;20EIGHT;20NINE"]⟩,
  ⟨0x1e95e, ["00ADLAM INITIAL EXCLAMATION MARK;21QUESTION"]⟩,
  ⟨0x1ec71, [
    "00INDIC SIYAQ NUMBER ONE;30TWO;30THREE;30FOUR;30FIVE;30SIX;30SEVEN;30EIGHT;30NINE;30TEN",
    "30TWENTY;30THIRTY;30FORTY;30FIFTY;30SIXTY;30SEVENTY;30EIGHTY;30NINETY;30ONE HUNDRED;31TWO",
    "31THREE;31FOUR;31FIVE;31SIX;31SEVEN;31EIGHT;31NINE;30ONE THOUSAND;31TWO;31THREE;31FOUR",
    "31FIVE;31SIX;31SEVEN;31EIGHT;31NINE;31TEN;31TWENTY;31THIRTY;31FORTY;31FIFTY;31SIXTY",
    "31SEVENTY;31EIGHTY;31NINETY;30LAKH;30LAKHAN;20LAKH MARK;20NUMBER KAROR;30KARORAN",
    "30PREFIXED ONE;40TWO;40THREE;40FOUR;40FIVE;40SIX;40SEVEN;40EIGHT;40NINE;20PLACEHOLDER",
    "20FRACTION ONE QUARTER;40HALF;30THREE QUARTERS;20RUPEE MARK;20NUMBER ALTERNATE ONE;40TWO",
    "40TEN THOUSAND;20ALTERNATE LAKH MARK"]⟩,
  ⟨0x1ed01, [
    "00OTTOMAN SIYAQ NUMBER ONE;30TWO;30THREE;30FOUR;30FIVE;30SIX;30SEVEN;30EIGHT;30NINE;30TEN",
    "30TWENTY;30THIRTY;30FORTY;30FIFTY;30SIXTY;30SEVENTY;30EIGHTY;30NINETY;30ONE HUNDRED;31TWO",
    "31THREE;31FOUR;31FIVE;31SIX;31SEVEN;31EIGHT;31NINE;30ONE THOUSAND;31TWO;31THREE;31FOUR",
    "31FIVE;31SIX;31SEVEN;31EIGHT;31NINE;31TEN;31TWENTY;31THIRTY;31FORTY;31FIFTY;31SIXTY",
    "31SEVENTY;31EIGHTY;31NINETY;20MARRATAN;20ALTERNATE NUMBER TWO;40THREE;40FOUR;40FIVE;40SIX",
    "40SEVEN;40EIGHT;40NINE;40TEN;40FOUR HUNDRED;41SIX;40TWO THOUSAND;41TEN;20FRACTION ONE HALF",
    "40SIXTH"]⟩,
  ⟨0x1ee00, ["00ARABIC MATHEMATICAL ALEF;20BEH;20JEEM;20DAL"]⟩,
  ⟨0x1ee05, [
    "00ARABIC MATHEMATICAL WAW;20ZAIN;20HAH;20TAH;20YEH;20KAF;20LAM;20MEEM;20NOON;20SEEN;20AIN",
    "20FEH;20SAD;20QAF;20REH;20SHEEN;20TEH;20THEH;20KHAH;20THAL;20DAD;20ZAH;20GHAIN",
    "20DOTLESS BEH;30NOON;30FEH;30QAF"]⟩,
  ⟨0x1ee21, ["00ARABIC MATHEMATICAL INITIAL BEH;30JEEM"]⟩,
  ⟨0x1ee24, ["00ARABIC MATHEMATICAL INITIAL HEH"]⟩,
  ⟨0x1ee27, ["00ARABIC MATHEMATICAL INITIAL HAH"]⟩,
  ⟨0x1ee29, [
    "00ARABIC MATHEMATICAL INITIAL YEH;30KAF;30LAM;30MEEM;30NOON;30SEEN;30AIN;30FEH;30SAD;30QAF"]⟩,
  ⟨0x1ee34, ["00ARABIC MATHEMATICAL INITIAL SHEEN;30TEH;30THEH;30KHAH"]⟩,
  ⟨0x1ee39, ["00ARABIC MATHEMATICAL INITIAL DAD"]⟩,
  ⟨0x1ee3b, ["00ARABIC MATHEMATICAL INITIAL GHAIN"]⟩,
  ⟨0x1ee42, ["00ARABIC MATHEMATICAL TAILED JEEM"]⟩,
  ⟨0x1ee47, ["00ARABIC MATHEMATICAL TAILED HAH"]⟩,
  ⟨0x1ee49, ["00ARABIC MATHEMATICAL TAILED YEH"]⟩,
  ⟨0x1ee4b, ["00ARABIC MATHEMATICAL TAILED LAM"]⟩,
  ⟨0x1ee4d, ["00ARABIC MATHEMATICAL TAILED NOON;30SEEN;30AIN"]⟩,
  ⟨0x1ee51, ["00ARABIC MATHEMATICAL TAILED SAD;30QAF"]⟩,
  ⟨0x1ee54, ["00ARABIC MATHEMATICAL TAILED SHEEN"]⟩,
  ⟨0x1ee57, ["00ARABIC MATHEMATICAL TAILED KHAH"]⟩,
  ⟨0x1ee59, ["00ARABIC MATHEMATICAL TAILED DAD"]⟩,
  ⟨0x1ee5b, ["00ARABIC MATHEMATICAL TAILED GHAIN"]⟩,
  ⟨0x1ee5d, ["00ARABIC MATHEMATICAL TAILED DOTLESS NOON"]⟩,
  ⟨0x1ee5f, ["00ARABIC MATHEMATICAL TAILED DOTLESS QAF"]⟩,
  ⟨0x1ee61, ["00ARABIC MATHEMATICAL STRETCHED BEH;30JEEM"]⟩,
  ⟨0x1ee64, ["00ARABIC MATHEMATICAL STRETCHED HEH"]⟩,
  ⟨0x1ee67, ["00ARABIC MATHEMATICAL STRETCHED HAH;30TAH;30YEH;30KAF"]⟩,
  ⟨0x1ee6c, ["00ARABIC MATHEMATICAL STRETCHED MEEM;30NOON;30SEEN;30AIN;30FEH;30SAD;30QAF"]⟩,
  ⟨0x1ee74, ["00ARABIC MATHEMATICAL STRETCHED SHEEN;30TEH;30THEH;30KHAH"]⟩,
  ⟨0x1ee79, ["00ARABIC MATHEMATICAL STRETCHED DAD;30ZAH;30GHAIN;30DOTLESS BEH"]⟩,
  ⟨0x1ee7e, ["00ARABIC MATHEMATICAL STRETCHED DOTLESS FEH"]⟩,
  ⟨0x1ee80, [
    "00ARABIC MATHEMATICAL LOOPED ALEF;30BEH;30JEEM;30DAL;30HEH;30WAW;30ZAIN;30HAH;30TAH;30YEH"]⟩,
  ⟨0x1ee8b, [
    "00ARABIC MATHEMATICAL LOOPED LAM;30MEEM;30NOON;30SEEN;30AIN;30FEH;30SAD;30QAF;30REH",
    "30SHEEN;30TEH;30THEH;30KHAH;30THAL;30DAD;30ZAH;30GHAIN"]⟩,
  ⟨0x1eea1, ["00ARABIC MATHEMATICAL DOUBLE-STRUCK BEH;30JEEM;30DAL"]⟩,
  ⟨0x1eea5, ["00ARABIC MATHEMATICAL DOUBLE-STRUCK WAW;30ZAIN;30HAH;30TAH;30YEH"]⟩,
  ⟨0x1eeab, [
    "00ARABIC MATHEMATICAL DOUBLE-STRUCK LAM;30MEEM;30NOON;30SEEN;30AIN;30FEH;30SAD;30QAF;30REH",
    "30SHEEN;30TEH;30THEH;30KHAH;30THAL;30DAD;30ZAH;30GHAIN"]⟩,
  ⟨0x1eef0, ["00ARABIC MATHEMATICAL OPERATOR MEEM WITH HAH WITH TATWEEL;30HAH WITH DAL"]⟩,
  ⟨0x1f000, [
    "00MAHJONG TILE EAST WIND;21SOUTH;21WEST;21NORTH;20RED DRAGON;21GREEN;21WHITE",
    "20ONE OF CHARACTERS;22TWO;22THREE;22FOUR;22FIVE;22SIX;22SEVEN;22EIGHT;22NINE",
    "20ONE OF BAMBOOS;22TWO;22THREE;22FOUR;22FIVE;22SIX;22SEVEN;22EIGHT;22NINE;20ONE OF CIRCLES",
    "22TWO;22THREE;22FOUR;22FIVE;22SIX;22SEVEN;22EIGHT;22NINE;20PLUM;20ORCHID;20BAMBOO",
    "20CHRYSANTHEMUM;20SPRING;20SUMMER;20AUTUMN;20WINTER;20JOKER;20BACK"]⟩,
  ⟨0x1f030, [
    "00DOMINO TILE HORIZONTAL BACK;20HORIZONTAL-00-00;20HORIZONTAL-00-01;20HORIZONTAL-00-02",
    "20HORIZONTAL-00-03;20HORIZONTAL-00-04;20HORIZONTAL-00-05;20HORIZONTAL-00-06",
    "20HORIZONTAL-01-00;20HORIZONTAL-01-01;20HORIZONTAL-01-02;20HORIZONTAL-01-03",
    "20HORIZONTAL-01-04;20HORIZONTAL-01-05;20HORIZONTAL-01-06;20HORIZONTAL-02-00",
    "20HORIZONTAL-02-01;20HORIZONTAL-02-02;20HORIZONTAL-02-03;20HORIZONTAL-02-04",
    "20HORIZONTAL-02-05;20HORIZONTAL-02-06;20HORIZONTAL-03-00;20HORIZONTAL-03-01",
    "20HORIZONTAL-03-02;20HORIZONTAL-03-03;20HORIZONTAL-03-04;20HORIZONTAL-03-05",
    "20HORIZONTAL-03-06;20HORIZONTAL-04-00;20HORIZONTAL-04-01;20HORIZONTAL-04-02",
    "20HORIZONTAL-04-03;20HORIZONTAL-04-04;20HORIZONTAL-04-05;20HORIZONTAL-04-06",
    "20HORIZONTAL-05-00;20HORIZONTAL-05-01;20HORIZONTAL-05-02;20HORIZONTAL-05-03",
    "20HORIZONTAL-05-04;20HORIZONTAL-05-05;20HORIZONTAL-05-06;20HORIZONTAL-06-00",
    "20HORIZONTAL-06-01;20HORIZONTAL-06-02;20HORIZONTAL-06-03;20HORIZONTAL-06-04",
    "20HORIZONTAL-06-05;20HORIZONTAL-06-06;20VERTICAL BACK;20VERTICAL-00-00;20VERTICAL-00-01",
    "20VERTICAL-00-02;20VERTICAL-00-03;20VERTICAL-00-04;20VERTICAL-00-05;20VERTICAL-00-06",
    "20VERTICAL-01-00;20VERTICAL-01-01;20VERTICAL-01-02;20VERTICAL-01-03;20VERTICAL-01-04",
    "20VERTICAL-01-05;20VERTICAL-01-06;20VERTICAL-02-00;20VERTICAL-02-01;20VERTICAL-02-02",
    "20VERTICAL-02-03;20VERTICAL-02-04;20VERTICAL-02-05;20VERTICAL-02-06;20VERTICAL-03-00",
    "20VERTICAL-03-01;20VERTICAL-03-02;20VERTICAL-03-03;20VERTICAL-03-04;20VERTICAL-03-05",
    "20VERTICAL-03-06;20VERTICAL-04-00;20VERTICAL-04-01;20VERTICAL-04-02;20VERTICAL-04-03",
    "20VERTICAL-04-04;20VERTICAL-04-05;20VERTICAL-04-06;20VERTICAL-05-00;20VERTICAL-05-01",
    "20VERTICAL-05-02;20VERTICAL-05-03;20VERTICAL-05-04;20VERTICAL-05-05;20VERTICAL-05-06",
    "20VERTICAL-06-00;20VERTICAL-06-01;20VERTICAL-06-02;20VERTICAL-06-03;20VERTICAL-06-04",
    "20VERTICAL-06-05;20VERTICAL-06-06"]⟩,
  ⟨0x1f0a0, [
    "00PLAYING CARD BACK;20ACE OF SPADES;22TWO;22THREE;22FOUR;22FIVE;22SIX;22SEVEN;22EIGHT",
    "22NINE;22TEN;22JACK;22KNIGHT;22QUEEN;22KING"]⟩,
  ⟨0x1f0b1, [
    "00PLAYING CARD ACE OF HEARTS;22TWO;22THREE;22FOUR;22FIVE;22SIX;22SEVEN;22EIGHT;22NINE",
    "22TEN;22JACK;22KNIGHT;22QUEEN;22KING;20RED JOKER"]⟩,
  ⟨0x1f0c1, [
    "00PLAYING CARD ACE OF DIAMONDS;22TWO;22THREE;22FOUR;22FIVE;22SIX;22SEVEN;22EIGHT;22NINE",
    "22TEN;22JACK;22KNIGHT;22QUEEN;22KING;20BLACK JOKER"]⟩,
  ⟨0x1f0d1, [
    "00PLAYING CARD ACE OF CLUBS;22TWO;22THREE;22FOUR;22FIVE;22SIX;22SEVEN;22EIGHT;22NINE;22TEN",
    "22JACK;22KNIGHT;22QUEEN;22KING;20WHITE JOKER;20FOOL;20TRUMP-1;20TRUMP-2;20TRUMP-3",
    "20TRUMP-4;20TRUMP-5;20TRUMP-6;20TRUMP-7;20TRUMP-8;20TRUMP-9;20TRUMP-10;20TRUMP-11",
    "20TRUMP-12;20TRUMP-13;20TRUMP-14;20TRUMP-15;20TRUMP-16;20TRUMP-17;20TRUMP-18;20TRUMP-19",
    "20TRUMP-20;20TRUMP-21"]⟩,
  ⟨0x1f100, [
    "00DIGIT ZERO FULL STOP;20COMMA;11ONE;11TWO;11THREE;11FOUR;11FIVE;11SIX;11SEVEN;11EIGHT",
    "11NINE;00DINGBAT CIRCLED SANS-SERIF DIGIT ZERO;14NEGATIVE;00CIRCLED ZERO WITH SLASH",
    "10ANTICLOCKWISE ARROW;10DOLLAR SIGN WITH OVERLAID BACKSLASH",
    "00PARENTHESIZED LATIN CAPITAL LETTER A;40B;40C;40D;40E;40F;40G;40H;40I;40J;40K;40L;40M;40N",
    "40O;40P;40Q;40R;40S;40T;40U;40V;40W;40X;40Y;40Z",
    "00TORTOISE SHELL BRACKETED LATIN CAPITAL LETTER S;00CIRCLED ITALIC LATIN CAPITAL LETTER C",
    "50R;10CD;10WZ;00COPYLEFT SYMBOL;00SQUARED LATIN CAPITAL LETTER A;40B;40C;40D;40E;40F;40G",
    "40H;40I;40J;40K;40L;40M;40N;40O;40P;40Q;40R;40S;40T;40U;40V;40W;40X;40Y;40Z;10HV;10MV;10SD",
    "10SS;10PPV;10WC;00NEGATIVE CIRCLED LATIN CAPITAL LETTER A;50B;50C;50D;50E;50F;50G;50H;50I",
    "50J;50K;50L;50M;50N;50O;50P;50Q;50R;50S;50T;50U;50V;50W;50X;50Y;50Z;00RAISED MC SIGN;11MD",
    "11MR;00CIRCLED CC;10C WITH OVERLAID BACKSLASH;10HUMAN FIGURE",
    "00NEGATIVE SQUARED LATIN CAPITAL LETTER A;50B;50C;50D;50E;50F;50G;50H;50I;50J;50K;50L;50M",
    "50N;50O;50P;50Q;50R;50S;50T;50U;50V;50W;50X;50Y;50Z",
    "00CROSSED NEGATIVE SQUARED LATIN CAPITAL LETTER P;00NEGATIVE SQUARED IC;20PA;20SA;20AB",
    "20WC;00SQUARE DJ;00SQUARED CL;10COOL;10FREE;10ID;10NEW;10NG;10OK;10SOS",
    "10UP WITH EXCLAMATION MARK;10VS;10THREE D;10SECOND SCREEN;10TWO K;11FOUR;11EIGHT",
    "10FIVE POINT ONE;12SEVEN;10TWENTY-TWO POINT TWO;10SIXTY P;11ONE HUNDRED TWENTY",
    "10LATIN SMALL LETTER D;10HC;10HDR;10HI-RES;10LOSSLESS;10SHV;10UHD;10VOD;00MASK WORK SYMBOL"]⟩,
  ⟨0x1f1e6, [
    "00REGIONAL INDICATOR SYMBOL LETTER A;40B;40C;40D;40E;40F;40G;40H;40I;40J;40K;40L;40M;40N",
    "40O;40P;40Q;40R;40S;40T;40U;40V;40W;40X;40Y;40Z;00SQUARE HIRAGANA HOKA",
    "00SQUARED KATAKANA KOKO;20SA"]⟩,
  ⟨0x1f210, [
    "00SQUARED CJK UNIFIED IDEOGRAPH-624B;30IDEOGRAPH-5B57;30IDEOGRAPH-53CC;10KATAKANA DE",
    "10CJK UNIFIED IDEOGRAPH-4E8C;30IDEOGRAPH-591A;30IDEOGRAPH-89E3;30IDEOGRAPH-5929",
    "30IDEOGRAPH-4EA4;30IDEOGRAPH-6620;30IDEOGRAPH-7121;30IDEOGRAPH-6599;30IDEOGRAPH-524D",
    "30IDEOGRAPH-5F8C;30IDEOGRAPH-518D;30IDEOGRAPH-65B0;30IDEOGRAPH-521D;30IDEOGRAPH-7D42",
    "30IDEOGRAPH-751F;30IDEOGRAPH-8CA9;30IDEOGRAPH-58F0;30IDEOGRAPH-5439;30IDEOGRAPH-6F14",
    "30IDEOGRAPH-6295;30IDEOGRAPH-6355;30IDEOGRAPH-4E00;30IDEOGRAPH-4E09;30IDEOGRAPH-904A",
    "30IDEOGRAPH-5DE6;30IDEOGRAPH-4E2D;30IDEOGRAPH-53F3;30IDEOGRAPH-6307;30IDEOGRAPH-8D70",
    "30IDEOGRAPH-6253;30IDEOGRAPH-7981;30IDEOGRAPH-7A7A;30IDEOGRAPH-5408;30IDEOGRAPH-6E80",
    "30IDEOGRAPH-6709;30IDEOGRAPH-6708;30IDEOGRAPH-7533;30IDEOGRAPH-5272;30IDEOGRAPH-55B6",
    "30IDEOGRAPH-914D"]⟩,
  ⟨0x1f240, [
    "00TORTOISE SHELL BRACKETED CJK UNIFIED IDEOGRAPH-672C;50IDEOGRAPH-4E09;50IDEOGRAPH-4E8C",
    "50IDEOGRAPH-5B89;50IDEOGRAPH-70B9;50IDEOGRAPH-6253;50IDEOGRAPH-76D7;50IDEOGRAPH-52DD",
    "50IDEOGRAPH-6557"]⟩,
  ⟨0x1f250, ["00CIRCLED IDEOGRAPH ADVANTAGE;20ACCEPT"]⟩,
  ⟨0x1f260, ["00ROUNDED SYMBOL FOR FU;30LU;30SHOU;30XI;30SHUANGXI;30CAI"]⟩,
  ⟨0x1f300, [
    "00CYCLONE;00FOGGY;00CLOSED UMBRELLA;00NIGHT WITH STARS;00SUNRISE OVER MOUNTAINS;10",
    "00CITYSCAPE AT DUSK;00SUNSET OVER BUILDINGS;00RAINBOW;00BRIDGE AT NIGHT;00WATER WAVE",
    "00VOLCANO;00MILKY WAY;00EARTH GLOBE EUROPE-AFRICA;20AMERICAS;20ASIA-AUSTRALIA",
    "00GLOBE WITH MERIDIANS;00NEW MOON SYMBOL;02WAXING CRESCENT;02FIRST QUARTER",
    "02WAXING GIBBOUS;02FULL;02WANING GIBBOUS;02LAST QUARTER;02WANING CRESCENT;00CRESCENT MOON",
    "00NEW MOON WITH FACE;03FIRST QUARTER;04LAST;03FULL;02SUN;00GLOWING STAR;01SHOOTING",
    "00THERMOMETER;00BLACK DROPLET;00WHITE SUN;20WITH SMALL CLOUD;21BEHIND;40WITH RAIN;03",
    "20SNOW;20LIGHTNING;20TORNADO;00FOG;00WIND BLOWING FACE;00HOT DOG;00TACO;00BURRITO",
    "00CHESTNUT;00SEEDLING;00EVERGREEN TREE;01DECIDUOUS;01PALM;00CACTUS;00HOT PEPPER;00TULIP",
    "00CHERRY BLOSSOM;00ROSE;00HIBISCUS;00SUNFLOWER;00BLOSSOM;00EAR OF MAIZE;20RICE;00HERB",
    "00FOUR LEAF CLOVER;00MAPLE LEAF;01FALLEN;00LEAF FLUTTERING IN WIND;00MUSHROOM;00TOMATO",
    "00AUBERGINE;00GRAPES;00MELON;00WATERMELON;00TANGERINE;00LEMON;00BANANA;00PINEAPPLE",
    "00RED APPLE;01GREEN;00PEAR;00PEACH;00CHERRIES;00STRAWBERRY;00HAMBURGER;00SLICE OF PIZZA",
    "00MEAT ON BONE;00POULTRY LEG;00RICE CRACKER;10BALL;00COOKED RICE;01CURRY AND",
    "00STEAMING BOWL;00SPAGHETTI;00BREAD;00FRENCH FRIES;00ROASTED SWEET POTATO;00DANGO;00ODEN",
    "00SUSHI;00FRIED SHRIMP;00FISH CAKE WITH SWIRL DESIGN;00SOFT ICE CREAM;00SHAVED ICE",
    "00ICE CREAM;00DOUGHNUT;00COOKIE;00CHOCOLATE BAR;00CANDY;00LOLLIPOP;00CUSTARD;00HONEY POT",
    "00SHORTCAKE;00BENTO BOX;00POT OF FOOD;00COOKING;00FORK AND KNIFE;00TEACUP WITHOUT HANDLE",
    "00SAKE BOTTLE AND CUP;00WINE GLASS;01COCKTAIL;00TROPICAL DRINK;00BEER MUG",
    "00CLINKING BEER MUGS;00BABY BOTTLE;00FORK AND KNIFE WITH PLATE;00BOTTLE WITH POPPING CORK",
    "00POPCORN;00RIBBON;00WRAPPED PRESENT;00BIRTHDAY CAKE;00JACK-O-LANTERN;00CHRISTMAS TREE",
    "00FATHER CHRISTMAS;00FIREWORKS;00FIREWORK SPARKLER;00BALLOON;00PARTY POPPER",
    "00CONFETTI BALL;00TANABATA TREE;00CROSSED FLAGS;00PINE DECORATION;00JAPANESE DOLLS",
    "00CARP STREAMER;00WIND CHIME;00MOON VIEWING CEREMONY;00SCHOOL SATCHEL;00GRADUATION CAP",
    "00HEART WITH TIP ON THE LEFT;00BOUQUET OF FLOWERS;00MILITARY MEDAL;00REMINDER RIBBON",
    "00MUSICAL KEYBOARD WITH JACKS;00STUDIO MICROPHONE;00LEVEL SLIDER;00CONTROL KNOBS",
    "00BEAMED ASCENDING MUSICAL NOTES;12DESCENDING;00FILM FRAMES;00ADMISSION TICKETS",
    "00CAROUSEL HORSE;00FERRIS WHEEL;00ROLLER COASTER;00FISHING POLE AND FISH;00MICROPHONE",
    "00MOVIE CAMERA;00CINEMA;00HEADPHONE;00ARTIST PALETTE;00TOP HAT;00CIRCUS TENT;00TICKET",
    "00CLAPPER BOARD;00PERFORMING ARTS;00VIDEO GAME;00DIRECT HIT;00SLOT MACHINE;00BILLIARDS",
    "00GAME DIE;00BOWLING;00FLOWER PLAYING CARDS;00MUSICAL NOTE;00MULTIPLE MUSICAL NOTES",
    "00SAXOPHONE;00GUITAR;00MUSICAL KEYBOARD;00TRUMPET;00VIOLIN;00MUSICAL SCORE",
    "00RUNNING SHIRT WITH SASH;00TENNIS RACQUET AND BALL;00SKI AND SKI BOOT",
    "00BASKETBALL AND HOOP;00CHEQUERED FLAG;00SNOWBOARDER;00RUNNER;00SURFER;00SPORTS MEDAL",
    "00TROPHY;00HORSE RACING;00AMERICAN FOOTBALL;01RUGBY;00SWIMMER;00WEIGHT LIFTER;00GOLFER",
    "00RACING MOTORCYCLE;10CAR;00CRICKET BAT AND BALL;00VOLLEYBALL",
    "00FIELD HOCKEY STICK AND BALL;00ICE HOCKEY STICK AND PUCK;00TABLE TENNIS PADDLE AND BALL",
    "00SNOW CAPPED MOUNTAIN;00CAMPING;00BEACH WITH UMBRELLA;00BUILDING CONSTRUCTION",
    "00HOUSE BUILDINGS;00CITYSCAPE;00DERELICT HOUSE BUILDING;01CLASSICAL;00DESERT;10ISLAND",
    "00NATIONAL PARK;00STADIUM;00HOUSE BUILDING;10WITH GARDEN;00OFFICE BUILDING",
    "00JAPANESE POST OFFICE;02EUROPEAN;00HOSPITAL;00BANK;00AUTOMATED TELLER MACHINE;00HOTEL",
    "01LOVE;00CONVENIENCE STORE;00SCHOOL;00DEPARTMENT STORE;00FACTORY;00IZAKAYA LANTERN",
    "00JAPANESE CASTLE;01EUROPEAN;00WHITE PENNANT;01BLACK;00WAVING WHITE FLAG;11BLACK;00ROSETTE",
    "01BLACK;00LABEL;00BADMINTON RACQUET AND SHUTTLECOCK;00BOW AND ARROW;00AMPHORA",
    "00EMOJI MODIFIER FITZPATRICK TYPE-1-2;30TYPE-3;30TYPE-4;30TYPE-5;30TYPE-6;00RAT;00MOUSE",
    "00OX;00WATER BUFFALO;00COW;00TIGER;00LEOPARD;00RABBIT;00CAT;00DRAGON;00CROCODILE;00WHALE",
    "00SNAIL;00SNAKE;00HORSE;00RAM;00GOAT;00SHEEP;00MONKEY;00ROOSTER;00CHICKEN;00DOG;00PIG",
    "00BOAR;00ELEPHANT;00OCTOPUS;00SPIRAL SHELL;00BUG;00ANT;00HONEYBEE;00LADY BEETLE;00FISH",
    "01TROPICAL;00BLOWFISH;00TURTLE;00HATCHING CHICK;01BABY;02FRONT-FACING;00BIRD;00PENGUIN",
    "00KOALA;00POODLE;00DROMEDARY CAMEL;01BACTRIAN;00DOLPHIN;00MOUSE FACE;01COW;01TIGER",
    "01RABBIT;01CAT;01DRAGON;00SPOUTING WHALE;00HORSE FACE;01MONKEY;01DOG;01PIG;01FROG",
    "01HAMSTER;01WOLF;01BEAR;01PANDA;00PIG NOSE;00PAW PRINTS;00CHIPMUNK;00EYES;00EYE;00EAR",
    "00NOSE;00MOUTH;00TONGUE;00WHITE UP POINTING BACKHAND INDEX;13DOWN;13LEFT;13RIGHT",
    "00FISTED HAND SIGN;02WAVING;02OK;01THUMBS UP;11DOWN;01CLAPPING HANDS;02OPEN;00CROWN",
    "00WOMANS HAT;00EYEGLASSES;00NECKTIE;00T-SHIRT;00JEANS;00DRESS;00KIMONO;00BIKINI",
    "00WOMANS CLOTHES;00PURSE;00HANDBAG;00POUCH;00MANS SHOE;01ATHLETIC;01HIGH-HEELED",
    "00WOMANS SANDAL;10BOOTS;00FOOTPRINTS;00BUST IN SILHOUETTE;02BUSTS;00BOY;00GIRL;00MAN",
    "00WOMAN;00FAMILY;00MAN AND WOMAN HOLDING HANDS;02TWO MEN;12WOMEN;00POLICE OFFICER",
    "00WOMAN WITH BUNNY EARS;00BRIDE WITH VEIL;00PERSON WITH BLOND HAIR;00MAN WITH GUA PI MAO",
    "20TURBAN;00OLDER MAN;10WOMAN;00BABY;00CONSTRUCTION WORKER;00PRINCESS;00JAPANESE OGRE",
    "10GOBLIN;00GHOST;00BABY ANGEL;00EXTRATERRESTRIAL ALIEN;00ALIEN MONSTER;00IMP;00SKULL",
    "00INFORMATION DESK PERSON;00GUARDSMAN;00DANCER;00LIPSTICK;00NAIL POLISH;00FACE MASSAGE",
    "00HAIRCUT;00BARBER POLE;00SYRINGE;00PILL;00KISS MARK;00LOVE LETTER;00RING;00GEM STONE",
    "00KISS;00BOUQUET;00COUPLE WITH HEART;00WEDDING;00BEATING HEART;01BROKEN;00TWO HEARTS",
    "00SPARKLING HEART;01GROWING;00HEART WITH ARROW;00BLUE HEART;01GREEN;01YELLOW;01PURPLE",
    "00HEART WITH RIBBON;00REVOLVING HEARTS;00HEART DECORATION",
    "00DIAMOND SHAPE WITH A DOT INSIDE;00ELECTRIC LIGHT BULB;00ANGER SYMBOL;00BOMB",
    "00SLEEPING SYMBOL;01COLLISION;01SPLASHING SWEAT;00DROPLET;00DASH SYMBOL;00PILE OF POO",
    "00FLEXED BICEPS;00DIZZY SYMBOL;00SPEECH BALLOON;01THOUGHT;00WHITE FLOWER",
    "00HUNDRED POINTS SYMBOL;00MONEY BAG;00CURRENCY EXCHANGE;00HEAVY DOLLAR SIGN;00CREDIT CARD",
    "00BANKNOTE WITH YEN SIGN;21DOLLAR;21EURO;21POUND;00MONEY WITH WINGS",
    "00CHART WITH UPWARDS TREND AND YEN SIGN;00SEAT;00PERSONAL COMPUTER;00BRIEFCASE;00MINIDISC",
    "00FLOPPY DISK;00OPTICAL DISC;00DVD;00FILE FOLDER;02OPEN;00PAGE WITH CURL;10FACING UP",
    "00CALENDAR;01TEAR-OFF;00CARD INDEX;00CHART WITH UPWARDS TREND;21DOWNWARDS;00BAR CHART",
    "00CLIPBOARD;00PUSHPIN;01ROUND;00PAPERCLIP;00STRAIGHT RULER;01TRIANGULAR;00BOOKMARK TABS",
    "00LEDGER;00NOTEBOOK;10WITH DECORATIVE COVER;00CLOSED BOOK;01OPEN;01GREEN;01BLUE;01ORANGE",
    "00BOOKS;00NAME BADGE;00SCROLL;00MEMO;00TELEPHONE RECEIVER;00PAGER;00FAX MACHINE",
    "00SATELLITE ANTENNA;00PUBLIC ADDRESS LOUDSPEAKER;00CHEERING MEGAPHONE;00OUTBOX TRAY",
    "01INBOX;00PACKAGE;00E-MAIL SYMBOL;00INCOMING ENVELOPE",
    "00ENVELOPE WITH DOWNWARDS ARROW ABOVE;00CLOSED MAILBOX WITH LOWERED FLAG;31RAISED;04OPEN",
    "31LOWERED;00POSTBOX;00POSTAL HORN;00NEWSPAPER;00MOBILE PHONE",
    "20WITH RIGHTWARDS ARROW AT LEFT;00VIBRATION MODE;00MOBILE PHONE OFF;00NO MOBILE PHONES",
    "00ANTENNA WITH BARS;00CAMERA;10WITH FLASH;00VIDEO CAMERA;00TELEVISION;00RADIO",
    "00VIDEOCASSETTE;00FILM PROJECTOR;00PORTABLE STEREO;00PRAYER BEADS",
    "00TWISTED RIGHTWARDS ARROWS;01CLOCKWISE RIGHTWARDS AND LEFTWARDS OPEN CIRCLE",
    "70WITH CIRCLED ONE OVERLAY;10DOWNWARDS AND UPWARDS OPEN CIRCLE ARROWS;06ANTICLOCKWISE",
    "00LOW BRIGHTNESS SYMBOL;02HIGH;00SPEAKER WITH CANCELLATION STROKE;10;10WITH ONE SOUND WAVE",
    "20THREE SOUND WAVES;00BATTERY;00ELECTRIC PLUG;00LEFT-POINTING MAGNIFYING GLASS",
    "02RIGHT-POINTING;00LOCK WITH INK PEN;00CLOSED LOCK WITH KEY;01;00LOCK;01OPEN;00BELL",
    "10WITH CANCELLATION STROKE;00BOOKMARK;00LINK SYMBOL;00RADIO BUTTON",
    "00BACK WITH LEFTWARDS ARROW ABOVE;04END;02ON WITH EXCLAMATION MARK WITH LEFT RIGHT",
    "02SOON WITH RIGHTWARDS;02TOP WITH UPWARDS;00NO ONE UNDER EIGHTEEN SYMBOL;00KEYCAP TEN",
    "00INPUT SYMBOL FOR LATIN CAPITAL LETTERS;41SMALL;30NUMBERS;30SYMBOLS;30LATIN LETTERS",
    "00FIRE;00ELECTRIC TORCH;00WRENCH;00HAMMER;00NUT AND BOLT;00HOCHO;00PISTOL;00MICROSCOPE",
    "00TELESCOPE;00CRYSTAL BALL;00SIX POINTED STAR WITH MIDDLE DOT",
    "00JAPANESE SYMBOL FOR BEGINNER;00TRIDENT EMBLEM;00BLACK SQUARE BUTTON;02WHITE",
    "00LARGE RED CIRCLE;11BLUE;10ORANGE DIAMOND;11BLUE;01SMALL ORANGE;11BLUE",
    "00UP-POINTING RED TRIANGLE;02DOWN-POINTING;02UP-POINTING SMALL;03DOWN-POINTING",
    "00LOWER RIGHT SHADOWED WHITE CIRCLE;04UPPER;00CIRCLED CROSS POMMEE",
    "00CROSS POMMEE WITH HALF-CIRCLE BELOW;20;00NOTCHED LEFT SEMICIRCLE WITH THREE DOTS;14RIGHT",
    "00SYMBOL FOR MARKS CHAPTER;00WHITE LATIN CROSS;02HEAVY;01CELTIC;00OM SYMBOL",
    "00DOVE OF PEACE;00KAABA;00MOSQUE;00SYNAGOGUE;00MENORAH WITH NINE BRANCHES",
    "00BOWL OF HYGIEIA;00CLOCK FACE ONE OCLOCK;21TWO;21THREE;21FOUR;21FIVE;21SIX;21SEVEN",
    "21EIGHT;21NINE;21TEN;21ELEVEN;21TWELVE;20ONE-THIRTY;20TWO-THIRTY;20THREE-THIRTY",
    "20FOUR-THIRTY;20FIVE-THIRTY;20SIX-THIRTY;20SEVEN-THIRTY;20EIGHT-THIRTY;20NINE-THIRTY",
    "20TEN-THIRTY;20ELEVEN-THIRTY;20TWELVE-THIRTY;00RIGHT SPEAKER;20WITH ONE SOUND WAVE",
    "30THREE SOUND WAVES;00BULLHORN;10WITH SOUND WAVES;00RINGING BELL;00BOOK;00CANDLE",
    "00MANTELPIECE CLOCK;00BLACK SKULL AND CROSSBONES;00NO PIRACY;00HOLE",
    "00MAN IN BUSINESS SUIT LEVITATING;00SLEUTH OR SPY;00DARK SUNGLASSES;00SPIDER;10WEB",
    "00JOYSTICK;00MAN DANCING;00LEFT HAND TELEPHONE RECEIVER;00TELEPHONE RECEIVER WITH PAGE",
    "00RIGHT HAND TELEPHONE RECEIVER;00WHITE TOUCHTONE TELEPHONE;02BLACK",
    "00TELEPHONE ON TOP OF MODEM;00CLAMSHELL MOBILE PHONE;00BACK OF ENVELOPE;01STAMPED",
    "00ENVELOPE WITH LIGHTNING;00FLYING ENVELOPE;01PEN OVER STAMPED;00LINKED PAPERCLIPS",
    "00BLACK PUSHPIN;00LOWER LEFT PENCIL;20BALLPOINT PEN;21FOUNTAIN;20PAINTBRUSH;20CRAYON",
    "00LEFT WRITING HAND;00TURNED OK HAND SIGN;00RAISED HAND WITH FINGERS SPLAYED;05REVERSED",
    "10THUMBS UP SIGN;21DOWN;10VICTORY HAND;10HAND WITH MIDDLE FINGER EXTENDED",
    "00RAISED HAND WITH PART BETWEEN MIDDLE AND RING FINGERS",
    "00WHITE DOWN POINTING LEFT HAND INDEX;01SIDEWAYS WHITE LEFT POINTING;22RIGHT;12BLACK LEFT",
    "22RIGHT;01BLACK LEFT POINTING BACKHAND;13RIGHT;01SIDEWAYS WHITE UP POINTING;22DOWN",
    "12BLACK UP;22DOWN;01BLACK UP POINTING BACKHAND;13DOWN;10HEART;00DESKTOP COMPUTER",
    "00KEYBOARD AND MOUSE;00THREE NETWORKED COMPUTERS;00PRINTER;00POCKET CALCULATOR",
    "00BLACK HARD SHELL FLOPPY DISK;04WHITE;03SOFT;00TAPE CARTRIDGE;00WIRED KEYBOARD",
    "00ONE BUTTON MOUSE;02TWO;02THREE;00TRACKBALL;00OLD PERSONAL COMPUTER;00HARD DISK;00SCREEN",
    "00PRINTER ICON;01FAX;01OPTICAL DISC;00DOCUMENT WITH TEXT;30AND PICTURE;21;02FRAME;20TILES",
    "20AN X;00BLACK FOLDER;01;01OPEN;00CARD INDEX DIVIDERS;10FILE BOX;00FILE CABINET",
    "00EMPTY NOTE;20PAGE;20PAD;00NOTE;10PAGE;10PAD;00EMPTY DOCUMENT;10PAGE;10PAGES;00DOCUMENT",
    "00PAGE;00PAGES;00WASTEBASKET;00SPIRAL NOTE PAD;11CALENDAR;00DESKTOP WINDOW;00MINIMIZE",
    "00MAXIMIZE;00OVERLAP;00CLOCKWISE RIGHT AND LEFT SEMICIRCLE ARROWS;00CANCELLATION X",
    "00INCREASE FONT SIZE SYMBOL;03DECREASE;00COMPRESSION;00OLD KEY;00ROLLED-UP NEWSPAPER",
    "00PAGE WITH CIRCLED TEXT;00STOCK CHART;00DAGGER KNIFE;00LIPS;00SPEAKING HEAD IN SILHOUETTE",
    "00THREE RAYS ABOVE;20BELOW;20LEFT;20RIGHT;00LEFT SPEECH BUBBLE;02RIGHT",
    "00TWO SPEECH BUBBLES;02THREE;00LEFT THOUGHT BUBBLE;02RIGHT;01LEFT ANGER;02RIGHT;01MOOD",
    "02LIGHTNING;20;00BALLOT BOX WITH BALLOT;10SCRIPT X;12BOX WITH;12BOLD;13BOX WITH",
    "00LIGHT CHECK MARK;00BALLOT BOX WITH BOLD CHECK;00WORLD MAP;00MOUNT FUJI;00TOKYO TOWER",
    "00STATUE OF LIBERTY;00SILHOUETTE OF JAPAN;00MOYAI;00GRINNING FACE;20WITH SMILING EYES",
    "00FACE WITH TEARS OF JOY;00SMILING FACE WITH OPEN MOUTH;50AND SMILING EYES;60COLD SWEAT",
    "60TIGHTLY-CLOSED EYES;30HALO;30HORNS;00WINKING FACE;00SMILING FACE WITH SMILING EYES",
    "00FACE SAVOURING DELICIOUS FOOD;00RELIEVED FACE;00SMILING FACE WITH HEART-SHAPED EYES",
    "30SUNGLASSES;00SMIRKING FACE;01NEUTRAL;01EXPRESSIONLESS;01UNAMUSED;00FACE WITH COLD SWEAT",
    "00PENSIVE FACE;01CONFUSED;01CONFOUNDED;01KISSING;00FACE THROWING A KISS",
    "00KISSING FACE WITH SMILING EYES;31CLOSED;00FACE WITH STUCK-OUT TONGUE;40AND WINKING EYE",
    "50TIGHTLY-CLOSED EYES;00DISAPPOINTED FACE;01WORRIED;01ANGRY;01POUTING;01CRYING",
    "01PERSEVERING;00FACE WITH LOOK OF TRIUMPH;00DISAPPOINTED BUT RELIEVED FACE",
    "00FROWNING FACE WITH OPEN MOUTH;00ANGUISHED FACE;01FEARFUL;01WEARY;01SLEEPY;01TIRED",
    "01GRIMACING;01LOUDLY CRYING;00FACE WITH OPEN MOUTH;00HUSHED FACE",
    "00FACE WITH OPEN MOUTH AND COLD SWEAT;10SCREAMING IN FEAR;00ASTONISHED FACE;01FLUSHED",
    "01SLEEPING;01DIZZY;00FACE WITHOUT MOUTH;10WITH MEDICAL MASK",
    "00GRINNING CAT FACE WITH SMILING EYES;00CAT FACE WITH TEARS OF JOY",
    "00SMILING CAT FACE WITH OPEN MOUTH;40HEART-SHAPED EYES;00CAT FACE WITH WRY SMILE",
    "00KISSING CAT FACE WITH CLOSED EYES;00POUTING CAT FACE;02CRYING;02WEARY",
    "01SLIGHTLY FROWNING;11SMILING;01UPSIDE-DOWN;00FACE WITH ROLLING EYES;20NO GOOD GESTURE",
    "21OK;00PERSON BOWING DEEPLY;00SEE-NO-EVIL MONKEY;01HEAR-NO-EVIL;01SPEAK-NO-EVIL",
    "00HAPPY PERSON RAISING ONE HAND;00PERSON RAISING BOTH HANDS IN CELEBRATION;10FROWNING",
    "10WITH POUTING FACE;20FOLDED HANDS;00NORTH WEST POINTING LEAF;03SOUTH;02NORTH EAST;03SOUTH",
    "02TURNED NORTH WEST;13SOUTH;12NORTH EAST;13SOUTH;01NORTH WEST POINTING VINE;04SOUTH",
    "03NORTH EAST;04SOUTH;03HEAVY NORTH WEST;14SOUTH;13NORTH EAST;14SOUTH",
    "00NORTH WEST POINTING BUD;03SOUTH;02NORTH EAST;03SOUTH;02HEAVY NORTH WEST;13SOUTH",
    "12NORTH EAST;13SOUTH;00HOLLOW QUILT SQUARE ORNAMENT;40IN BLACK SQUARE",
    "00SOLID QUILT SQUARE ORNAMENT;40IN BLACK SQUARE;00LEFTWARDS ROCKET;01UPWARDS;01RIGHTWARDS",
    "01DOWNWARDS;00SCRIPT LIGATURE ET ORNAMENT;04HEAVY;02LIGATURE OPEN;04HEAVY;11AMPERSAND",
    "02SWASH;01SANS-SERIF HEAVY DOUBLE TURNED COMMA QUOTATION MARK;34;25LOW;01HEAVY INTERROBANG",
    "02SANS-SERIF;03HEAVY;00VERY HEAVY SOLIDUS;21REVERSE;00CHECKER BOARD;02REVERSE;00ROCKET",
    "00HELICOPTER;00STEAM LOCOMOTIVE;00RAILWAY CAR;00HIGH-SPEED TRAIN;20WITH BULLET NOSE",
    "00TRAIN;00METRO;00LIGHT RAIL;00STATION;00TRAM;10CAR;00BUS;01ONCOMING;00TROLLEYBUS",
    "00BUS STOP;00MINIBUS;00AMBULANCE;00FIRE ENGINE;00POLICE CAR;02ONCOMING;00TAXI;01ONCOMING",
    "00AUTOMOBILE;01ONCOMING;00RECREATIONAL VEHICLE;00DELIVERY TRUCK;00ARTICULATED LORRY",
    "00TRACTOR;00MONORAIL;00MOUNTAIN RAILWAY;01SUSPENSION;00MOUNTAIN CABLEWAY;00AERIAL TRAMWAY",
    "00SHIP;00ROWBOAT;00SPEEDBOAT;00HORIZONTAL TRAFFIC LIGHT;02VERTICAL;00CONSTRUCTION SIGN",
    "00POLICE CARS REVOLVING LIGHT;00TRIANGULAR FLAG ON POST;00DOOR;00NO ENTRY SIGN",
    "00SMOKING SYMBOL;02NO;01PUT LITTER IN ITS PLACE;01DO NOT LITTER;01POTABLE WATER",
    "02NON-POTABLE;00BICYCLE;00NO BICYCLES;00BICYCLIST;01MOUNTAIN;00PEDESTRIAN;00NO PEDESTRIANS",
    "00CHILDREN CROSSING;00MENS SYMBOL;01WOMENS;00RESTROOM;00BABY SYMBOL;00TOILET",
    "00WATER CLOSET;00SHOWER;00BATH;00BATHTUB;00PASSPORT CONTROL;00CUSTOMS;00BAGGAGE CLAIM",
    "00LEFT LUGGAGE;00TRIANGLE WITH ROUNDED CORNERS;00PROHIBITED SIGN",
    "00CIRCLED INFORMATION SOURCE;00BOYS SYMBOL;01GIRLS;00COUCH AND LAMP",
    "00SLEEPING ACCOMMODATION;00SHOPPING BAGS;00BELLHOP BELL;00BED;00PLACE OF WORSHIP",
    "00OCTAGONAL SIGN;00SHOPPING TROLLEY;00STUPA;00PAGODA;00HINDU TEMPLE;00HUT;00ELEVATOR"]⟩]

end QuasiGrammar.Text
