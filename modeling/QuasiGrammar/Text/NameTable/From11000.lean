import QuasiGrammar.Text.NameTable.Basic

/-
  QuasiGrammar.Text.NameTable.From11000
  ─────────────────────────────────────
  The names of characters from 11000 on:
  Brahmi and its descendants, and cuneiform.
-/

namespace QuasiGrammar.Text

/-- The runs of names that begin from `0x11000` on and before `0x13000`. -/
def namesFrom11000 : List NameRun := [
  ⟨0x11000, [
    "00BRAHMI SIGN CANDRABINDU;20ANUSVARA;20VISARGA;20JIHVAMULIYA;20UPADHMANIYA;10LETTER A;20AA",
    "20I;20II;20U;20UU;20VOCALIC R;30RR;30L;30LL;20E;20AI;20O;20AU;20KA;20KHA;20GA;20GHA;20NGA",
    "20CA;20CHA;20JA;20JHA;20NYA;20TTA;20TTHA;20DDA;20DDHA;20NNA;20TA;20THA;20DA;20DHA;20NA",
    "20PA;20PHA;20BA;20BHA;20MA;20YA;20RA;20LA;20VA;20SHA;20SSA;20SA;20HA;20LLA",
    "20OLD TAMIL LLLA;40RRA;40NNNA;10VOWEL SIGN AA;31BHATTIPROLU;30I;30II;30U;30UU;30VOCALIC R",
    "40RR;40L;40LL;30E;30AI;30O;30AU;10VIRAMA;10DANDA;11DOUBLE;10PUNCTUATION DOT;21DOUBLE",
    "20LINE;20CRESCENT BAR;20LOTUS"]⟩,
  ⟨0x11052, [
    "00BRAHMI NUMBER ONE;20TWO;20THREE;20FOUR;20FIVE;20SIX;20SEVEN;20EIGHT;20NINE;20TEN",
    "20TWENTY;20THIRTY;20FORTY;20FIFTY;20SIXTY;20SEVENTY;20EIGHTY;20NINETY;20ONE HUNDRED",
    "30THOUSAND;10DIGIT ZERO;20ONE;20TWO;20THREE;20FOUR;20FIVE;20SIX;20SEVEN;20EIGHT;20NINE",
    "10SIGN OLD TAMIL VIRAMA;10LETTER OLD TAMIL SHORT E;50O;10VOWEL SIGN OLD TAMIL SHORT E;60O",
    "10LETTER OLD TAMIL LLA"]⟩,
  ⟨0x1107f, [
    "00BRAHMI NUMBER JOINER;00KAITHI SIGN CANDRABINDU;20ANUSVARA;20VISARGA;10LETTER A;20AA;20I",
    "20II;20U;20UU;20E;20AI;20O;20AU;20KA;20KHA;20GA;20GHA;20NGA;20CA;20CHA;20JA;20JHA;20NYA",
    "20TTA;20TTHA;20DDA;20DDDHA;20DDHA;20RHA;20NNA;20TA;20THA;20DA;20DHA;20NA;20PA;20PHA;20BA",
    "20BHA;20MA;20YA;20RA;20LA;20VA;20SHA;20SSA;20SA;20HA;10VOWEL SIGN AA;30I;30II;30U;30UU;30E",
    "30AI;30O;30AU;10SIGN VIRAMA;20NUKTA;10ABBREVIATION SIGN;11ENUMERATION;11NUMBER",
    "10SECTION MARK;12DOUBLE;10DANDA;11DOUBLE;10VOWEL SIGN VOCALIC R"]⟩,
  ⟨0x110cd, ["00KAITHI NUMBER SIGN ABOVE"]⟩,
  ⟨0x110d0, [
    "00SORA SOMPENG LETTER SAH;30TAH;30BAH;30CAH;30DAH;30GAH;30MAH;30NGAH;30LAH;30NAH;30VAH",
    "30PAH;30YAH;30RAH;30HAH;30KAH;30JAH;30NYAH;30AH;30EEH;30IH;30UH;30OH;30EH;30MAE"]⟩,
  ⟨0x110f0, [
    "00SORA SOMPENG DIGIT ZERO;30ONE;30TWO;30THREE;30FOUR;30FIVE;30SIX;30SEVEN;30EIGHT;30NINE"]⟩,
  ⟨0x11100, [
    "00CHAKMA SIGN CANDRABINDU;20ANUSVARA;20VISARGA;10LETTER AA;20I;20U;20E;20KAA;20KHAA;20GAA",
    "20GHAA;20NGAA;20CAA;20CHAA;20JAA;20JHAA;20NYAA;20TTAA;20TTHAA;20DDAA;20DDHAA;20NNAA;20TAA",
    "20THAA;20DAA;20DHAA;20NAA;20PAA;20PHAA;20BAA;20BHAA;20MAA;20YYAA;20YAA;20RAA;20LAA;20WAA",
    "20SAA;20HAA;10VOWEL SIGN A;30I;30II;30U;30UU;30E;30AI;30O;30AU;30OI;10O MARK;11AU;10VIRAMA",
    "10MAAYYAA"]⟩,
  ⟨0x11136, [
    "00CHAKMA DIGIT ZERO;20ONE;20TWO;20THREE;20FOUR;20FIVE;20SIX;20SEVEN;20EIGHT;20NINE",
    "10SECTION MARK;10DANDA;11DOUBLE;10QUESTION MARK;10LETTER LHAA;10VOWEL SIGN AA;30EI",
    "10LETTER VAA"]⟩,
  ⟨0x11150, [
    "00MAHAJANI LETTER A;20I;20U;20E;20O;20KA;20KHA;20GA;20GHA;20CA;20CHA;20JA;20JHA;20NYA",
    "20TTA;20TTHA;20DDA;20DDHA;20NNA;20TA;20THA;20DA;20DHA;20NA;20PA;20PHA;20BA;20BHA;20MA;20RA",
    "20LA;20VA;20SA;20HA;20RRA;10SIGN NUKTA;10ABBREVIATION SIGN;10SECTION MARK;10LIGATURE SHRI"]⟩,
  ⟨0x11180, [
    "00SHARADA SIGN CANDRABINDU;20ANUSVARA;20VISARGA;10LETTER A;20AA;20I;20II;20U;20UU",
    "20VOCALIC R;30RR;30L;30LL;20E;20AI;20O;20AU;20KA;20KHA;20GA;20GHA;20NGA;20CA;20CHA;20JA",
    "20JHA;20NYA;20TTA;20TTHA;20DDA;20DDHA;20NNA;20TA;20THA;20DA;20DHA;20NA;20PA;20PHA;20BA",
    "20BHA;20MA;20YA;20RA;20LA;20LLA;20VA;20SHA;20SSA;20SA;20HA;10VOWEL SIGN AA;30I;30II;30U",
    "30UU;30VOCALIC R;40RR;40L;40LL;30E;30AI;30O;30AU;10SIGN VIRAMA;20AVAGRAHA;20JIHVAMULIYA",
    "20UPADHMANIYA;10OM;10DANDA;11DOUBLE;10ABBREVIATION SIGN;10SEPARATOR;10SANDHI MARK",
    "10SIGN NUKTA;10VOWEL MODIFIER MARK;11EXTRA SHORT VOWEL;11SUTRA",
    "10VOWEL SIGN PRISHTHAMATRA E;10SIGN INVERTED CANDRABINDU;10DIGIT ZERO;20ONE;20TWO;20THREE",
    "20FOUR;20FIVE;20SIX;20SEVEN;20EIGHT;20NINE;10EKAM;10SIGN SIDDHAM;10HEADSTROKE",
    "10CONTINUATION SIGN;10SECTION MARK-1;20MARK-2"]⟩,
  ⟨0x111e1, [
    "00SINHALA ARCHAIC DIGIT ONE;30TWO;30THREE;30FOUR;30FIVE;30SIX;30SEVEN;30EIGHT;30NINE",
    "20NUMBER TEN;30TWENTY;30THIRTY;30FORTY;30FIFTY;30SIXTY;30SEVENTY;30EIGHTY;30NINETY",
    "30ONE HUNDRED;40THOUSAND"]⟩,
  ⟨0x11200, [
    "00KHOJKI LETTER A;20AA;20I;20U;20E;20AI;20O;20AU;20KA;20KHA;20GA;20GGA;20GHA;20NGA;20CA",
    "20CHA;20JA;20JJA"]⟩,
  ⟨0x11213, [
    "00KHOJKI LETTER NYA;20TTA;20TTHA;20DDA;20DDHA;20NNA;20TA;20THA;20DA;20DDDA;20DHA;20NA;20PA",
    "20PHA;20BA;20BBA;20BHA;20MA;20YA;20RA;20LA;20VA;20SA;20HA;20LLA;10VOWEL SIGN AA;30I;30II",
    "30U;30E;30AI;30O;30AU;10SIGN ANUSVARA;20VIRAMA;20NUKTA;20SHADDA;10DANDA;11DOUBLE",
    "10WORD SEPARATOR;10SECTION MARK;12DOUBLE;10ABBREVIATION SIGN;10SIGN SUKUN"]⟩,
  ⟨0x11280, ["00MULTANI LETTER A;20I;20U;20E;20KA;20KHA;20GA"]⟩,
  ⟨0x11288, ["00MULTANI LETTER GHA"]⟩,
  ⟨0x1128a, ["00MULTANI LETTER CA;20CHA;20JA;20JJA"]⟩,
  ⟨0x1128f, [
    "00MULTANI LETTER NYA;20TTA;20TTHA;20DDA;20DDDA;20DDHA;20NNA;20TA;20THA;20DA;20DHA;20NA",
    "20PA;20PHA;20BA"]⟩,
  ⟨0x1129f, [
    "00MULTANI LETTER BHA;20MA;20YA;20RA;20LA;20VA;20SA;20HA;20RRA;20RHA;10SECTION MARK"]⟩,
  ⟨0x112b0, [
    "00KHUDAWADI LETTER A;20AA;20I;20II;20U;20UU;20E;20AI;20O;20AU;20KA;20KHA;20GA;20GGA;20GHA",
    "20NGA;20CA;20CHA;20JA;20JJA;20JHA;20NYA;20TTA;20TTHA;20DDA;20DDDA;20RRA;20DDHA;20NNA;20TA",
    "20THA;20DA;20DHA;20NA;20PA;20PHA;20BA;20BBA;20BHA;20MA;20YA;20RA;20LA;20VA;20SHA;20SA;20HA",
    "10SIGN ANUSVARA;10VOWEL SIGN AA;30I;30II;30U;30UU;30E;30AI;30O;30AU;10SIGN NUKTA;20VIRAMA"]⟩,
  ⟨0x112f0, [
    "00KHUDAWADI DIGIT ZERO;20ONE;20TWO;20THREE;20FOUR;20FIVE;20SIX;20SEVEN;20EIGHT;20NINE"]⟩,
  ⟨0x11300, ["00GRANTHA SIGN COMBINING ANUSVARA ABOVE;20CANDRABINDU;20ANUSVARA;20VISARGA"]⟩,
  ⟨0x11305, ["00GRANTHA LETTER A;20AA;20I;20II;20U;20UU;20VOCALIC R;30L"]⟩,
  ⟨0x1130f, ["00GRANTHA LETTER EE;20AI"]⟩,
  ⟨0x11313, [
    "00GRANTHA LETTER OO;20AU;20KA;20KHA;20GA;20GHA;20NGA;20CA;20CHA;20JA;20JHA;20NYA;20TTA",
    "20TTHA;20DDA;20DDHA;20NNA;20TA;20THA;20DA;20DHA;20NA"]⟩,
  ⟨0x1132a, ["00GRANTHA LETTER PA;20PHA;20BA;20BHA;20MA;20YA;20RA"]⟩,
  ⟨0x11332, ["00GRANTHA LETTER LA;20LLA"]⟩,
  ⟨0x11335, ["00GRANTHA LETTER VA;20SHA;20SSA;20SA;20HA"]⟩,
  ⟨0x1133b, [
    "00COMBINING BINDU BELOW;00GRANTHA SIGN NUKTA;20AVAGRAHA;10VOWEL SIGN AA;30I;30II;30U;30UU",
    "30VOCALIC R;40RR"]⟩,
  ⟨0x11347, ["00GRANTHA VOWEL SIGN EE;30AI"]⟩,
  ⟨0x1134b, ["00GRANTHA VOWEL SIGN OO;30AU;10SIGN VIRAMA"]⟩,
  ⟨0x11350, ["00GRANTHA OM"]⟩,
  ⟨0x11357, ["00GRANTHA AU LENGTH MARK"]⟩,
  ⟨0x1135d, [
    "00GRANTHA SIGN PLUTA;10LETTER VEDIC ANUSVARA;31DOUBLE;20VOCALIC RR;30LL",
    "10VOWEL SIGN VOCALIC L;40LL"]⟩,
  ⟨0x11366, ["00COMBINING GRANTHA DIGIT ZERO;30ONE;30TWO;30THREE;30FOUR;30FIVE;30SIX"]⟩,
  ⟨0x11370, ["00COMBINING GRANTHA LETTER A;30KA;30NA;30VI;30PA"]⟩,
  ⟨0x11400, [
    "00NEWA LETTER A;20AA;20I;20II;20U;20UU;20VOCALIC R;30RR;30L;30LL;20E;20AI;20O;20AU;20KA",
    "20KHA;20GA;20GHA;20NGA;20NGHA;20CA;20CHA;20JA;20JHA;20NYA;20NYHA;20TTA;20TTHA;20DDA;20DDHA",
    "20NNA;20TA;20THA;20DA;20DHA;20NA;20NHA;20PA;20PHA;20BA;20BHA;20MA;20MHA;20YA;20RA;20RHA",
    "20LA;20LHA;20WA;20SHA;20SSA;20SA;20HA;10VOWEL SIGN AA;30I;30II;30U;30UU;30VOCALIC R;40RR",
    "40L;40LL;30E;30AI;30O;30AU;10SIGN VIRAMA;20CANDRABINDU;20ANUSVARA;20VISARGA;20NUKTA",
    "20AVAGRAHA;20FINAL ANUSVARA;10OM;10SIDDHI;10DANDA;11DOUBLE;10COMMA;10GAP FILLER",
    "10ABBREVIATION SIGN;10DIGIT ZERO;20ONE;20TWO;20THREE;20FOUR;20FIVE;20SIX;20SEVEN;20EIGHT",
    "20NINE;10DOUBLE COMMA;10PLACEHOLDER MARK"]⟩,
  ⟨0x1145d, [
    "00NEWA INSERTION SIGN;10SANDHI MARK;10LETTER VEDIC ANUSVARA;10SIGN JIHVAMULIYA",
    "20UPADHMANIYA"]⟩,
  ⟨0x11480, [
    "00TIRHUTA ANJI;10LETTER A;20AA;20I;20II;20U;20UU;20VOCALIC R;30RR;30L;30LL;20E;20AI;20O",
    "20AU;20KA;20KHA;20GA;20GHA;20NGA;20CA;20CHA;20JA;20JHA;20NYA;20TTA;20TTHA;20DDA;20DDHA",
    "20NNA;20TA;20THA;20DA;20DHA;20NA;20PA;20PHA;20BA;20BHA;20MA;20YA;20RA;20LA;20VA;20SHA",
    "20SSA;20SA;20HA;10VOWEL SIGN AA;30I;30II;30U;30UU;30VOCALIC R;40RR;40L;40LL;30E;31SHORT",
    "30AI;30O;31SHORT;30AU;10SIGN CANDRABINDU;20ANUSVARA;20VISARGA;20VIRAMA;20NUKTA;20AVAGRAHA",
    "10GVANG;10ABBREVIATION SIGN;10OM"]⟩,
  ⟨0x114d0, [
    "00TIRHUTA DIGIT ZERO;20ONE;20TWO;20THREE;20FOUR;20FIVE;20SIX;20SEVEN;20EIGHT;20NINE"]⟩,
  ⟨0x11580, [
    "00SIDDHAM LETTER A;20AA;20I;20II;20U;20UU;20VOCALIC R;30RR;30L;30LL;20E;20AI;20O;20AU;20KA",
    "20KHA;20GA;20GHA;20NGA;20CA;20CHA;20JA;20JHA;20NYA;20TTA;20TTHA;20DDA;20DDHA;20NNA;20TA",
    "20THA;20DA;20DHA;20NA;20PA;20PHA;20BA;20BHA;20MA;20YA;20RA;20LA;20VA;20SHA;20SSA;20SA;20HA",
    "10VOWEL SIGN AA;30I;30II;30U;30UU;30VOCALIC R;40RR"]⟩,
  ⟨0x115b8, [
    "00SIDDHAM VOWEL SIGN E;30AI;30O;30AU;10SIGN CANDRABINDU;20ANUSVARA;20VISARGA;20VIRAMA",
    "20NUKTA;20SIDDHAM;10DANDA;11DOUBLE;10SEPARATOR DOT;20BAR;10REPETITION MARK-1;20MARK-2",
    "20MARK-3;10END OF TEXT MARK;10SECTION MARK WITH TRIDENT AND U-SHAPED ORNAMENTS",
    "60DOTTED CRESCENTS;43RAYS;71DOUBLE;71TRIPLE;30DOUBLE RING;50WITH RAYS",
    "30WITH DOUBLE CRESCENTS;41TRIPLE;41QUADRUPLE;41SEPTUPLE;40CIRCLES AND RAYS",
    "60TWO ENCLOSURES;61FOUR;10LETTER THREE-CIRCLE ALTERNATE I;22TWO-CIRCLE;40II;20ALTERNATE U",
    "12VOWEL SIGN;40UU"]⟩,
  ⟨0x11600, [
    "00MODI LETTER A;20AA;20I;20II;20U;20UU;20VOCALIC R;30RR;30L;30LL;20E;20AI;20O;20AU;20KA",
    "20KHA;20GA;20GHA;20NGA;20CA;20CHA;20JA;20JHA;20NYA;20TTA;20TTHA;20DDA;20DDHA;20NNA;20TA",
    "20THA;20DA;20DHA;20NA;20PA;20PHA;20BA;20BHA;20MA;20YA;20RA;20LA;20VA;20SHA;20SSA;20SA;20HA",
    "20LLA;10VOWEL SIGN AA;30I;30II;30U;30UU;30VOCALIC R;40RR;40L;40LL;30E;30AI;30O;30AU",
    "10SIGN ANUSVARA;20VISARGA;20VIRAMA;20ARDHACANDRA;10DANDA;11DOUBLE;10ABBREVIATION SIGN",
    "10SIGN HUVA"]⟩,
  ⟨0x11650, ["00MODI DIGIT ZERO;20ONE;20TWO;20THREE;20FOUR;20FIVE;20SIX;20SEVEN;20EIGHT;20NINE"]⟩,
  ⟨0x11660, [
    "00MONGOLIAN BIRGA WITH ORNAMENT;10ROTATED BIRGA;10DOUBLE BIRGA WITH ORNAMENT;13TRIPLE",
    "11BIRGA WITH DOUBLE;11ROTATED BIRGA WITH;41DOUBLE;10INVERTED BIRGA;30WITH DOUBLE ORNAMENT",
    "10SWIRL BIRGA;30WITH ORNAMENT;41DOUBLE;15TURNED"]⟩,
  ⟨0x11680, [
    "00TAKRI LETTER A;20AA;20I;20II;20U;20UU;20E;20AI;20O;20AU;20KA;20KHA;20GA;20GHA;20NGA;20CA",
    "20CHA;20JA;20JHA;20NYA;20TTA;20TTHA;20DDA;20DDHA;20NNA;20TA;20THA;20DA;20DHA;20NA;20PA",
    "20PHA;20BA;20BHA;20MA;20YA;20RA;20LA;20VA;20SHA;20SA;20HA;20RRA;10SIGN ANUSVARA;20VISARGA",
    "10VOWEL SIGN AA;30I;30II;30U;30UU;30E;30AI;30O;30AU;10SIGN VIRAMA;20NUKTA",
    "10LETTER ARCHAIC KHA;10ABBREVIATION SIGN"]⟩,
  ⟨0x116c0, [
    "00TAKRI DIGIT ZERO;20ONE;20TWO;20THREE;20FOUR;20FIVE;20SIX;20SEVEN;20EIGHT;20NINE"]⟩,
  ⟨0x11700, [
    "00AHOM LETTER KA;20KHA;20NGA;20NA;20TA;21ALTERNATE;20PA;20PHA;20BA;20MA;20JA;20CHA;20THA",
    "20RA;20LA;20SA;20NYA;20HA;20A;20DA;20DHA;20GA;21ALTERNATE;20GHA;20BHA;20JHA;20ALTERNATE BA"]⟩,
  ⟨0x1171d, [
    "00AHOM CONSONANT SIGN MEDIAL LA;40RA;41LIGATING;10VOWEL SIGN A;30AA;30I;30II;30U;30UU;30E",
    "30AW;30O;30AI;30AM;10SIGN KILLER"]⟩,
  ⟨0x11730, [
    "00AHOM DIGIT ZERO;20ONE;20TWO;20THREE;20FOUR;20FIVE;20SIX;20SEVEN;20EIGHT;20NINE",
    "10NUMBER TEN;20TWENTY;10SIGN SMALL SECTION;21;20RULAI;10SYMBOL VI;10LETTER CA;20TTA;20TTHA",
    "20DDA;20DDHA;20NNA;20LLA"]⟩,
  ⟨0x11800, [
    "00DOGRA LETTER A;20AA;20I;20II;20U;20UU;20E;20AI;20O;20AU;20KA;20KHA;20GA;20GHA;20NGA;20CA",
    "20CHA;20JA;20JHA;20NYA;20TTA;20TTHA;20DDA;20DDHA;20NNA;20TA;20THA;20DA;20DHA;20NA;20PA",
    "20PHA;20BA;20BHA;20MA;20YA;20RA;20LA;20VA;20SHA;20SSA;20SA;20HA;20RRA;10VOWEL SIGN AA;30I",
    "30II;30U;30UU;30VOCALIC R;40RR;30E;30AI;30O;30AU;10SIGN ANUSVARA;20VISARGA;20VIRAMA",
    "20NUKTA;10ABBREVIATION SIGN"]⟩,
  ⟨0x118a0, [
    "00WARANG CITI CAPITAL LETTER NGAA;40A;40WI;40YU;40YA;40YO;40II;40UU;40E;40O;40ANG;40GA",
    "40KO;40ENY;40YUJ;40UC;40ENN;40ODD;40TTE;40NUNG;40DA;40AT;40AM;40BU;40PU;40HIYO;40HOLO",
    "40HORR;40HAR;40SSUU;40SII;40VIYO;20SMALL LETTER NGAA;40A;40WI;40YU;40YA;40YO;40II;40UU;40E",
    "40O;40ANG;40GA;40KO;40ENY;40YUJ;40UC;40ENN;40ODD;40TTE;40NUNG;40DA;40AT;40AM;40BU;40PU",
    "40HIYO;40HOLO;40HORR;40HAR;40SSUU;40SII;40VIYO;20DIGIT ZERO;30ONE;30TWO;30THREE;30FOUR",
    "30FIVE;30SIX;30SEVEN;30EIGHT;30NINE;20NUMBER TEN;30TWENTY;30THIRTY;30FORTY;30FIFTY;30SIXTY",
    "30SEVENTY;30EIGHTY;30NINETY"]⟩,
  ⟨0x118ff, ["00WARANG CITI OM;00DIVES AKURU LETTER A;30AA;30I;30II;30U;30UU;30E"]⟩,
  ⟨0x11909, ["00DIVES AKURU LETTER O"]⟩,
  ⟨0x1190c, ["00DIVES AKURU LETTER KA;30KHA;30GA;30GHA;30NGA;30CA;30CHA;30JA"]⟩,
  ⟨0x11915, ["00DIVES AKURU LETTER NYA;30TTA"]⟩,
  ⟨0x11918, [
    "00DIVES AKURU LETTER DDA;30DDHA;30NNA;30TA;30THA;30DA;30DHA;30NA;30PA;30PHA;30BA;30BHA",
    "30MA;30YA;30YYA;30RA;30LA;30VA;30SHA;30SSA;30SA;30HA;30LLA;30ZA;20VOWEL SIGN AA;40I;40II",
    "40U;40UU;40E"]⟩,
  ⟨0x11937, ["00DIVES AKURU VOWEL SIGN AI;40O"]⟩,
  ⟨0x1193b, [
    "00DIVES AKURU SIGN ANUSVARA;30CANDRABINDU;30HALANTA;20VIRAMA;20PREFIXED NASAL SIGN",
    "20MEDIAL YA;20INITIAL RA;21MEDIAL;20SIGN NUKTA;20DOUBLE DANDA;20GAP FILLER",
    "20END OF TEXT MARK"]⟩,
  ⟨0x11950, [
    "00DIVES AKURU DIGIT ZERO;30ONE;30TWO;30THREE;30FOUR;30FIVE;30SIX;30SEVEN;30EIGHT;30NINE"]⟩,
  ⟨0x119a0, ["00NANDINAGARI LETTER A;20AA;20I;20II;20U;20UU;20VOCALIC R;30RR"]⟩,
  ⟨0x119aa, [
    "00NANDINAGARI LETTER E;20AI;20O;20AU;20KA;20KHA;20GA;20GHA;20NGA;20CA;20CHA;20JA;20JHA",
    "20NYA;20TTA;20TTHA;20DDA;20DDHA;20NNA;20TA;20THA;20DA;20DHA;20NA;20PA;20PHA;20BA;20BHA",
    "20MA;20YA;20RA;20LA;20VA;20SHA;20SSA;20SA;20HA;20LLA;20RRA;10VOWEL SIGN AA;30I;30II;30U",
    "30UU;30VOCALIC R;40RR"]⟩,
  ⟨0x119da, [
    "00NANDINAGARI VOWEL SIGN E;30AI;30O;30AU;10SIGN ANUSVARA;20VISARGA;20VIRAMA;20AVAGRAHA",
    "20SIDDHAM;10HEADSTROKE;10VOWEL SIGN PRISHTHAMATRA E"]⟩,
  ⟨0x11a00, [
    "00ZANABAZAR SQUARE LETTER A;20VOWEL SIGN I;40UE;40U;40E;40OE;40O;40AI;40AU;40REVERSED I",
    "30LENGTH MARK;20LETTER KA;30KHA;30GA;30GHA;30NGA;30CA;30CHA;30JA;30NYA;30TTA;30TTHA;30DDA",
    "30DDHA;30NNA;30TA;30THA;30DA;30DHA;30NA;30PA;30PHA;30BA;30BHA;30MA;30TSA;30TSHA;30DZA",
    "30DZHA;30ZHA;30ZA;30-A;30YA;30RA;30LA;30VA;30SHA;30SSA;30SA;30HA;30KSSA",
    "20FINAL CONSONANT MARK;20SIGN VIRAMA;30CANDRABINDU;40WITH ORNAMENT;32CANDRA;30ANUSVARA",
    "30VISARGA;20CLUSTER-INITIAL LETTER RA;20CLUSTER-FINAL LETTER YA;40RA;40LA;40VA",
    "20INITIAL HEAD MARK;22CLOSING;20MARK TSHEG;30SHAD;31DOUBLE;30LONG TSHEG",
    "20INITIAL DOUBLE-LINED HEAD MARK;23CLOSING;20SUBJOINER"]⟩,
  ⟨0x11a50, [
    "00SOYOMBO LETTER A;10VOWEL SIGN I;30UE;30U;30E;30O;30OE;30AI;30AU;30VOCALIC R;40L",
    "20LENGTH MARK;10LETTER KA;20KHA;20GA;20GHA;20NGA;20CA;20CHA;20JA;20JHA;20NYA;20TTA;20TTHA",
    "20DDA;20DDHA;20NNA;20TA;20THA;20DA;20DHA;20NA;20PA;20PHA;20BA;20BHA;20MA;20TSA;20TSHA",
    "20DZA;20ZHA;20ZA;20-A;20YA;20RA;20LA;20VA;20SHA;20SSA;20SA;20HA;20KSSA;10SIGN JIHVAMULIYA",
    "20UPADHMANIYA;10CLUSTER-INITIAL LETTER RA;30LA;30SHA;30SA;10FINAL CONSONANT SIGN G;40K",
    "40NG;40D;40N;40B;40M;40R;40L;40SH;40S;40-A;10SIGN ANUSVARA;20VISARGA;10GEMINATION MARK",
    "10SUBJOINER;10MARK TSHEG;20SHAD;21DOUBLE;20PLUTA",
    "10HEAD MARK WITH MOON AND SUN AND TRIPLE FLAME;81;70;10TERMINAL MARK-1;20MARK-2"]⟩,
  ⟨0x11ab0, [
    "00CANADIAN SYLLABICS NATTILIK HI;30HII;30HO;30HOO;30HA;30HAA;30SHRI;30SHRII;30SHRO;30SHROO",
    "30SHRA;30SHRAA;20SPE;20SPI;20SPO;20SPA;00PAU CIN HAU LETTER PA;40KA;40LA;40MA;40DA;40ZA",
    "40VA;40NGA;40HA;40GA;40KHA;40SA;40BA;40CA;40TA;40THA;40NA;40PHA;40RA;40FA;40CHA;40A;40E",
    "40I;40O;40U;40UA;40IA;40FINAL P;50K;50T;50M;50N;50L;50W;50NG;50Y;30RISING TONE LONG;50",
    "30SANDHI GLOTTAL STOP;30RISING TONE LONG FINAL;51;31SANDHI GLOTTAL STOP;40TONE LONG;50",
    "50LONG FINAL;51;30MID-LEVEL TONE;30GLOTTAL STOP VARIANT;30MID-LEVEL TONE LONG FINAL;51",
    "30LOW-FALLING TONE LONG;50;30GLOTTAL STOP;30LOW-FALLING TONE LONG FINAL;51;31GLOTTAL STOP"]⟩,
  ⟨0x11c00, ["00BHAIKSUKI LETTER A;20AA;20I;20II;20U;20UU;20VOCALIC R;30RR;30L"]⟩,
  ⟨0x11c0a, [
    "00BHAIKSUKI LETTER E;20AI;20O;20AU;20KA;20KHA;20GA;20GHA;20NGA;20CA;20CHA;20JA;20JHA;20NYA",
    "20TTA;20TTHA;20DDA;20DDHA;20NNA;20TA;20THA;20DA;20DHA;20NA;20PA;20PHA;20BA;20BHA;20MA;20YA",
    "20RA;20LA;20VA;20SHA;20SSA;20SA;20HA;10VOWEL SIGN AA;30I;30II;30U;30UU;30VOCALIC R;40RR",
    "40L"]⟩,
  ⟨0x11c38, [
    "00BHAIKSUKI VOWEL SIGN E;30AI;30O;30AU;10SIGN CANDRABINDU;20ANUSVARA;20VISARGA;20VIRAMA",
    "20AVAGRAHA;10DANDA;11DOUBLE;10WORD SEPARATOR;10GAP FILLER-1;20FILLER-2"]⟩,
  ⟨0x11c50, [
    "00BHAIKSUKI DIGIT ZERO;20ONE;20TWO;20THREE;20FOUR;20FIVE;20SIX;20SEVEN;20EIGHT;20NINE",
    "10NUMBER ONE;20TWO;20THREE;20FOUR;20FIVE;20SIX;20SEVEN;20EIGHT;20NINE;20TEN;20TWENTY",
    "20THIRTY;20FORTY;20FIFTY;20SIXTY;20SEVENTY;20EIGHTY;20NINETY;10HUNDREDS UNIT MARK"]⟩,
  ⟨0x11c70, [
    "00MARCHEN HEAD MARK;10MARK SHAD;10LETTER KA;20KHA;20GA;20NGA;20CA;20CHA;20JA;20NYA;20TA",
    "20THA;20DA;20NA;20PA;20PHA;20BA;20MA;20TSA;20TSHA;20DZA;20WA;20ZHA;20ZA;20-A;20YA;20RA",
    "20LA;20SHA;20SA;20HA;20A"]⟩,
  ⟨0x11c92, [
    "00MARCHEN SUBJOINED LETTER KA;30KHA;30GA;30NGA;30CA;30CHA;30JA;30NYA;30TA;30THA;30DA;30NA",
    "30PA;30PHA;30BA;30MA;30TSA;30TSHA;30DZA;30WA;30ZHA;30ZA"]⟩,
  ⟨0x11ca9, [
    "00MARCHEN SUBJOINED LETTER YA;30RA;30LA;30SHA;30SA;30HA;30A;10VOWEL SIGN AA;30I;30U;30E",
    "30O;10SIGN ANUSVARA;20CANDRABINDU"]⟩,
  ⟨0x11d00, ["00MASARAM GONDI LETTER A;30AA;30I;30II;30U;30UU;30E"]⟩,
  ⟨0x11d08, ["00MASARAM GONDI LETTER AI;30O"]⟩,
  ⟨0x11d0b, [
    "00MASARAM GONDI LETTER AU;30KA;30KHA;30GA;30GHA;30NGA;30CA;30CHA;30JA;30JHA;30NYA;30TTA",
    "30TTHA;30DDA;30DDHA;30NNA;30TA;30THA;30DA;30DHA;30NA;30PA;30PHA;30BA;30BHA;30MA;30YA;30RA",
    "30LA;30VA;30SHA;30SSA;30SA;30HA;30LLA;30KSSA;30JNYA;30TRA;20VOWEL SIGN AA;40I;40II;40U",
    "40UU;40VOCALIC R"]⟩,
  ⟨0x11d3a, ["00MASARAM GONDI VOWEL SIGN E"]⟩,
  ⟨0x11d3c, ["00MASARAM GONDI VOWEL SIGN AI;40O"]⟩,
  ⟨0x11d3f, [
    "00MASARAM GONDI VOWEL SIGN AU;20SIGN ANUSVARA;30VISARGA;30NUKTA;30CANDRA;30HALANTA",
    "20VIRAMA;20REPHA;20RA-KARA"]⟩,
  ⟨0x11d50, [
    "00MASARAM GONDI DIGIT ZERO;30ONE;30TWO;30THREE;30FOUR;30FIVE;30SIX;30SEVEN;30EIGHT;30NINE"]⟩,
  ⟨0x11d60, ["00GUNJALA GONDI LETTER A;30AA;30I;30II;30U;30UU"]⟩,
  ⟨0x11d67, ["00GUNJALA GONDI LETTER EE;30AI"]⟩,
  ⟨0x11d6a, [
    "00GUNJALA GONDI LETTER OO;30AU;30YA;30VA;30BA;30BHA;30MA;30KA;30KHA;30TA;30THA;30LA;30GA",
    "30GHA;30DA;30DHA;30NA;30CA;30CHA;30TTA;30TTHA;30LLA;30JA;30JHA;30DDA;30DDHA;30NGA;30PA",
    "30PHA;30HA;30RA;30SA;20VOWEL SIGN AA;40I;40II;40U;40UU"]⟩,
  ⟨0x11d90, ["00GUNJALA GONDI VOWEL SIGN EE;40AI"]⟩,
  ⟨0x11d93, ["00GUNJALA GONDI VOWEL SIGN OO;40AU;20SIGN ANUSVARA;30VISARGA;20VIRAMA;20OM"]⟩,
  ⟨0x11da0, [
    "00GUNJALA GONDI DIGIT ZERO;30ONE;30TWO;30THREE;30FOUR;30FIVE;30SIX;30SEVEN;30EIGHT;30NINE"]⟩,
  ⟨0x11ee0, [
    "00MAKASAR LETTER KA;20GA;20NGA;20PA;20BA;20MA;20TA;20DA;20NA;20CA;20JA;20NYA;20YA;20RA",
    "20LA;20VA;20SA;20A;10ANGKA;10VOWEL SIGN I;30U;30E;30O;10PASSIMBANG;10END OF SECTION"]⟩,
  ⟨0x11fb0, ["00LISU LETTER YHA"]⟩,
  ⟨0x11fc0, [
    "00TAMIL FRACTION ONE THREE-HUNDRED-AND-TWENTIETH;30ONE-HUNDRED-AND-SIXTIETH;30EIGHTIETH",
    "30SIXTY-FOURTH;30FORTIETH;30THIRTY-SECOND;20THREE EIGHTIETHS;30SIXTY-FOURTHS",
    "20ONE TWENTIETH;30SIXTEENTH-1;30SIXTEENTH-2;30TENTH;30EIGHTH;20THREE TWENTIETHS",
    "30SIXTEENTHS;20ONE FIFTH;30QUARTER;30HALF-1;30HALF-2;20THREE QUARTERS",
    "20DOWNSCALING FACTOR KIIZH;10SIGN NEL;20CEVITU;20AAZHAAKKU;20UZHAKKU;20MUUVUZHAKKU",
    "20KURUNI;20PATHAKKU;20MUKKURUNI;20KAACU;20PANAM;20PON;20VARAAKAN;20PAARAM;20KUZHI;20VELI",
    "10WET CULTIVATION SIGN;12DRY;11LAND;11SALT PAN;11TRADITIONAL CREDIT;21NUMBER;11CURRENT",
    "11AND ODD;11SPENT;11TOTAL;11IN POSSESSION;11STARTING FROM;10SIGN MUTHALIYA;20VAKAIYARAA"]⟩,
  ⟨0x11fff, [
    "00TAMIL PUNCTUATION END OF TEXT;00CUNEIFORM SIGN A;30TIMES A;40BAD;40GAN2 TENU;40HA;40IGI",
    "40LAGAR GUNU;40MUSH;40SAG;20A2;20AB;30TIMES ASH2;40DUN3 GUNU;40GAL;40GAN2 TENU;40HA",
    "40IGI GUNU;40IMIN;40LAGAB;40SHESH;40U PLUS U PLUS U;30GUNU;20AB2;30TIMES BALAG;40GAN2 TENU",
    "40ME PLUS EN;40SHA3;40TAK4;20AD;20AK;30TIMES ERIN2;40SHITA PLUS GISH;20AL;30TIMES AL",
    "40DIM2;40GISH;40HA;40KAD3;40KI;40SHE;40USH;20ALAN;20ALEPH;20AMAR;30TIMES SHE;20AN",
    "30OVER AN;30THREE TIMES;30PLUS NAGA OPPOSING AN PLUS NAGA;50SQUARED;20ANSHE;20APIN;20ARAD",
    "30TIMES KUR;20ARKAB;20ASAL2;20ASH;30ZIDA TENU;31KABA",
    "30OVER ASH TUG2 OVER TUG2 TUG2 OVER TUG2 PAP;50OVER ASH;70CROSSING ASH OVER ASH OVER ASH",
    "20ASH2;20ASHGAB;20BA;20BAD;20BAG3;20BAHAR2;20BAL;30OVER BAL;20BALAG;20BAR;20BARA2;20BI",
    "30TIMES A;40GAR;40IGI GUNU;20BU;30OVER BU AB;50UN;30CROSSING BU;20BULUG;30OVER BULUG;20BUR",
    "20BUR2;20DA;20DAG;30KISIM5 TIMES A PLUS MASH;50AMAR;50BALAG;50BI;50GA;60PLUS MASH;50GI",
    "50GIR2;50GUD;50HA;50IR;60PLUS LU;50KAK;50LA;50LU;60PLUS MASH2;50LUM;50NE;50PAP PLUS PAP",
    "50SI;50TAK4;50U2 PLUS GIR2;50USH;20DAM;20DAR;20DARA3;20DARA4;20DI;20DIB;20DIM;30TIMES SHE",
    "20DIM2;20DIN;30KASKAL U GUNU DISH;21;20DU;30OVER DU;30GUNU;30SHESHIG;20DUB;30TIMES ESH2",
    "20DUB2;20DUG;20DUGUD;20DUH;20DUN;20DUN3;30GUNU;40GUNU;20DUN4;20DUR2;20E;30TIMES PAP",
    "30OVER E NUN OVER NUN;20E2;30TIMES A PLUS HA PLUS DA;40GAR;40MI;40SAL;40SHE;40U;20EDIN",
    "20EGIR;20EL;20EN;30TIMES GAN2;50TENU;40ME;30CROSSING EN;31OPPOSING;30SQUARED;20EREN",
    "20ERIN2;20ESH2;20EZEN;30TIMES A;50PLUS LAL;70TIMES LAL;40AN;40BAD;40DUN3 GUNU;60GUNU;40HA",
    "50GUNU;41IGI;40KASKAL;50SQUARED;40KU3;40LA;40LAL TIMES LAL;40LI;40LU;40U2;40UD;20GA;30GUNU",
    "20GA2;30TIMES A PLUS DA PLUS HA;61;60IGI;40AB2 TENU PLUS TAB;40AN;40ASH;40ASH2 PLUS GAL",
    "40BAD;40BAR PLUS RA;40BUR;50PLUS RA;40DA;40DI;40DIM TIMES SHE;40DUB;40EL;50PLUS LA;40EN",
    "50TIMES GAN2 TENU;42;40GAR;40GI;40GI4;50PLUS A;40GIR2 PLUS SU;40HA PLUS LU PLUS ESH2;40HAL",
    "50PLUS LA;40HI PLUS LI;40HUB2;40IGI GUNU;40ISH PLUS HU PLUS ASH;40KAK;40KASKAL;40KID",
    "50PLUS LAL;40KU3 PLUS AN;40LA;40ME PLUS EN;40MI;40NUN;50OVER NUN;40PA;40SAL;40SAR;40SHE",
    "50PLUS TUR;40SHID;40SUM;40TAK4;40U;40UD;50PLUS DU;30OVER GA2;20GABA;30CROSSING GABA;20GAD",
    "30OVER GAD GAR OVER GAR;20GAL;30GAD OVER GAD GAR OVER GAR;20GALAM;20GAM;20GAN;20GAN2",
    "30TENU;30OVER GAN2;31CROSSING;20GAR;20GAR3;20GASHAN;20GESHTIN;30TIMES KUR;20GI;30TIMES E",
    "40U;30CROSSING GI;20GI4;30OVER GI4;31CROSSING;20GIDIM;20GIR2;30GUNU;20GIR3",
    "30TIMES A PLUS IGI;40GAN2 TENU;40IGI;41LU PLUS;40PA;20GISAL;20GISH;30CROSSING GISH",
    "30TIMES BAD;40TAK4;30TENU;20GU;30CROSSING GU;20GU2;30TIMES KAK;50TIMES IGI GUNU;40NUN",
    "40SAL PLUS TUG2;30GUNU;20GUD;30TIMES A PLUS KUR;41;30OVER GUD LUGAL;20GUL;20GUM",
    "30TIMES SHE;20GUR;20GUR7;20GURUN;20GURUSH;20HA;30TENU;30GUNU;20HAL;20HI;30TIMES ASH;40ASH2",
    "40BAD;40DISH;40GAD;40KIN;40NUN;40SHE;40U;20HU;20HUB2;30TIMES AN;40HAL;40KASKAL;40LISH;40UD",
    "20HUL2;20I;30A;20IB;20IDIM;30OVER IDIM BUR;50SQUARED;20IG;20IGI;30DIB;30RI",
    "30OVER IGI SHIR OVER SHIR UD OVER UD;30GUNU;20IL;30TIMES GAN2 TENU;20IL2;20IM;30TIMES TAK4",
    "30CROSSING IM;31OPPOSING;30SQUARED;20IMIN;20IN;20IR;20ISH;20KA;30TIMES A;40AD;50PLUS KU3",
    "40ASH2;40BAD;40BALAG;40BAR;40BI;40ERIN2;40ESH2;40GA;40GAL;40GAN2 TENU;40GAR",
    "50PLUS SHA3 PLUS A;40GI;40GIR2;40GISH PLUS SAR;50CROSSING GISH;40GU;40GUR7;40IGI;40IM",
    "40KAK;40KI;40KID;40LI;40LU;40ME;50PLUS DU;60GI;60TE;40MI;50PLUS NUNUZ;40NE;40NUN;40PI;40RU",
    "40SA;40SAR;40SHA;40SHE;40SHID;40SHU;40SIG;40SUHUR;40TAR;40U;40U2;40UD;40UMUM TIMES PA",
    "40USH;40ZI;20KA2;30CROSSING KA2;20KAB;20KAD2;20KAD3;20KAD4;20KAD5;30OVER KAD5;20KAK",
    "30TIMES IGI GUNU;20KAL;30TIMES BAD;30CROSSING KAL;20KAM2;20KAM4;20KASKAL",
    "30LAGAB TIMES U OVER LAGAB TIMES U;37OVER KASKAL;20KESH2;20KI;30TIMES BAD;40U;40UD;20KID",
    "20KIN;20KISAL;20KISH;20KISIM5;30OVER KISIM5;20KU",
    "30OVER HI TIMES ASH2 KU OVER HI TIMES ASH2;20KU3;20KU4;30VARIANT FORM;20KU7;20KUL;30GUNU",
    "20KUN;20KUR;30OPPOSING KUR;20KUSHU2;20KWU318;20LA;20LAGAB;30TIMES A;50PLUS DA PLUS HA",
    "60GAR;60LAL;40AL;40AN;40ASH ZIDA TENU;40BAD;40BI;40DAR;40EN;40GA;40GAR;40GUD;50PLUS GUD",
    "40HA;40HAL;40HI TIMES NUN;40IGI GUNU;40IM;50PLUS HA;60LU;40KI;40KIN;40KU3;40KUL",
    "50PLUS HI PLUS A;40LAGAB;40LISH;40LU;40LUL;40ME;50PLUS EN;40MUSH;40NE;40SHE PLUS SUM",
    "40SHITA PLUS GISH PLUS ERIN2;70TENU;40SHU2;50PLUS SHU2;40SUM;40TAG;40TAK4",
    "40TE PLUS A PLUS SU PLUS NA;40U;50PLUS A;60U PLUS U;40U2 PLUS ASH;40UD;40USH;30SQUARED",
    "20LAGAR;30TIMES SHE;50PLUS SUM;30GUNU;40OVER LAGAR GUNU SHE;20LAHSHU;20LAL;30TIMES LAL",
    "20LAM;30TIMES KUR;50PLUS RU;20LI;20LIL;20LIMMU2;20LISH;20LU;30TIMES BAD;20LU2;30TIMES AL",
    "40BAD;40ESH2;50TENU;41GAN2;40HI TIMES BAD;40IM;40KAD2;40KAD3;50PLUS ASH;40KI;40LA PLUS ASH",
    "40LAGAB;40ME PLUS EN;40NE;40NU;40SI PLUS ASH;40SIK2 PLUS BU;40TUG2;30TENU;30CROSSING LU2",
    "31OPPOSING;30SQUARED;30SHESHIG;20LU3;20LUGAL;30OVER LUGAL;31OPPOSING;30SHESHIG;20LUH;20LUL",
    "20LUM;30OVER LUM;50GAR OVER GAR;20MA;30TIMES TAK4;30GUNU;20MA2;20MAH;20MAR;20MASH;20MASH2",
    "20ME;20MES;20MI;20MIN;20MU;30OVER MU;20MUG;30GUNU;20MUNSUB;20MURGU2;20MUSH;30TIMES A;40KUR",
    "40ZA;30OVER MUSH;50TIMES A PLUS NA;30CROSSING MUSH;20MUSH3;30TIMES A;50PLUS DI;41;30GUNU",
    "20NA;20NA2;20NAGA;30INVERTED;30TIMES SHU TENU;30OPPOSING NAGA;20NAGAR;20NAM NUTILLU;30",
    "20NAM2;20NE;30TIMES A;40UD;30SHESHIG;20NI;30TIMES E;20NI2;20NIM;30TIMES GAN2 TENU",
    "42GAR PLUS;20NINDA2;30TIMES AN;40ASH;50PLUS ASH;40GUD;40ME PLUS GAN2 TENU;40NE;40NUN;40SHE",
    "50PLUS A AN;60ASH;70PLUS ASH;42U2;40USH;20NISAG;20NU;20NU11;20NUN;30LAGAR TIMES GAR;50MASH",
    "50SAL;60OVER NUN LAGAR TIMES SAL;50USH;30TENU;30OVER NUN;31CROSSING;50LAGAR OVER LAGAR",
    "20NUNUZ;30AB2 TIMES ASHGAB;50BI;50DUG;50GUD;50IGI GUNU;50KAD3;50LA;50NE;50SILA3;50U2",
    "30KISIM5 TIMES BI;60U;20PA;20PAD;20PAN;20PAP;20PESH2;20PI;30TIMES A;40AB;40BI;40BU;40E;40I",
    "40IB;40U;40U2;30CROSSING PI;20PIRIG;30TIMES KAL;40UD;40ZA;30OPPOSING PIRIG;20RA;20RAB;20RI",
    "20RU;20SA;20SAG NUTILLU;30;30TIMES A;40DU;40DUB;40HA;40KAK;40KUR;40LUM;40MI;40NUN;40SAL",
    "40SHID;40TAB;40U2;40UB;40UM;40UR;40USH;30OVER SAG;30GUNU;20SAL;30LAGAB TIMES ASH2;20SANGA2",
    "20SAR;20SHA;20SHA3;30TIMES A;40BAD;40GISH;40NE;40SHU2;40TUR;40U;50PLUS A;20SHA6;20SHAB6",
    "20SHAR2;20SHE;30HU;30OVER SHE GAD OVER GAD GAR OVER GAR;53TAB OVER TAB;20SHEG9;20SHEN",
    "20SHESH;20SHESH2;20SHESHLAM;20SHID;30TIMES A;40IM;20SHIM;30TIMES A;40BAL;40BULUG;40DIN",
    "40GAR;40IGI;50GUNU;40KUSHU2;40LUL;40MUG;40SAL;20SHINIG;20SHIR;30TENU",
    "30OVER SHIR BUR OVER BUR;20SHITA;20SHU;30OVER INVERTED SHU;20SHU2;20SHUBUR;20SI;30GUNU",
    "20SIG;20SIG4;30OVER SIG4 SHU2;20SIK2;20SILA3;20SU;30OVER SU;20SUD;20SUD2;20SUHUR;20SUM",
    "20SUMASH;20SUR;20SUR9;20TA;30ASTERISK;30TIMES HI;40MI;30GUNU;20TAB",
    "30OVER TAB NI OVER NI DISH OVER DISH;30SQUARED;20TAG;30TIMES BI;40GUD;40SHE;40SHU;40TUG2",
    "40UD;20TAK4;20TAR;20TE;30GUNU;20TI;30TENU;20TIL;20TIR;30TIMES TAK4;30OVER TIR",
    "50GAD OVER GAD GAR OVER GAR;20TU;20TUG2;20TUK;20TUM;20TUR;30OVER TUR ZA OVER ZA;20U;30GUD",
    "30U U;30OVER U PA OVER PA GAR OVER GAR;50SUR OVER SUR;50U REVERSED OVER U REVERSED;20U2",
    "20UB;20UD;30KUSHU2;30TIMES BAD;40MI;40U PLUS U PLUS U;90GUNU;31;30SHESHIG;40TIMES BAD",
    "20UDUG;20UM;30TIMES LAGAB;40ME PLUS DA;40SHA3;40U;20UMBIN;20UMUM;30TIMES KASKAL;40PA;20UN",
    "30GUNU;20UR;30CROSSING UR;30SHESHIG;20UR2;30TIMES A PLUS HA;60NA;40AL;40HA;40NUN;40U2",
    "50PLUS ASH;60BI;20UR4;20URI;20URI3;20URU;30TIMES A;40ASHGAB;40BAR;40DUN;40GA;40GAL",
    "40GAN2 TENU;40GAR;40GU;40HA;40IGI;40IM;40ISH;40KI;40LUM;40MIN;40PA;40SHE;40SIG4;40TU",
    "40U PLUS GUD;40UD;40URUDA;21;30TIMES U;20USH;30TIMES A;40KU;40KUR;40TAK4;20USHX;20USH2",
    "20USHUMX;20UTUKI;20UZ3;30TIMES KASKAL;20UZU;20ZA;30TENU;30SQUARED TIMES KUR;20ZAG;20ZAMX",
    "20ZE2;20ZI;30OVER ZI;20ZI3;20ZIB;30KABA TENU;20ZIG;20ZIZ2;20ZU;20ZU5;30TIMES A;20ZUBUR",
    "20ZUM;20KAP ELAMITE;20AB TIMES NUN;20AB2 TIMES A;20AMAR TIMES KUG",
    "20DAG KISIM5 TIMES U2 PLUS MASH;20DAG3;20DISH PLUS SHU;20DUB TIMES SHE;20EZEN TIMES GUD",
    "40SHE;20GA2 TIMES AN PLUS KAK PLUS A;40ASH2;20GE22;20GIG;20HUSH;20KA TIMES ANSHE;40ASH3",
    "40GISH;40GUD;40HI TIMES ASH2;40LUM;40PA;40SHUL;40TU;40UR2;20LAGAB TIMES GI",
    "20LU2 SHESHIG TIMES BAD;30TIMES ESH2 PLUS LAL;40SHU;20MESH;20MUSH3 TIMES ZA;20NA4;20NIN",
    "20NIN9;20NINDA2 TIMES BAL;40GI;20NU11 ROTATED NINETY DEGREES;20PESH2 ASTERISK;20PIR2",
    "20SAG TIMES IGI GUNU;20TI2;20UM TIMES ME;20U U"]⟩,
  ⟨0x12400, [
    "00CUNEIFORM NUMERIC SIGN TWO ASH;31THREE;31FOUR;31FIVE;31SIX;31SEVEN;31EIGHT;31NINE",
    "30THREE DISH;31FOUR;31FIVE;31SIX;31SEVEN;31EIGHT;31NINE;30FOUR U;31FIVE;31SIX;31SEVEN",
    "31EIGHT;31NINE;30ONE GESH2;31TWO;31THREE;31FOUR;31FIVE;31SIX;31SEVEN;31EIGHT;31NINE",
    "30ONE GESHU;31TWO;31THREE;31FOUR;31FIVE;30TWO SHAR2;31THREE;50VARIANT FORM;30FOUR SHAR2",
    "31FIVE;31SIX;31SEVEN;31EIGHT;31NINE;30ONE SHARU;31TWO;31THREE;50VARIANT FORM;30FOUR SHARU",
    "31FIVE;30SHAR2 TIMES GAL PLUS DISH;70MIN;30ONE BURU;31TWO;31THREE;50VARIANT FORM",
    "30FOUR BURU;31FIVE;30THREE VARIANT FORM ESH16;60ESH21;30FOUR VARIANT FORM LIMMU;60LIMMU4",
    "60LIMMU A;70B;30SIX VARIANT FORM ASH9;30SEVEN VARIANT FORM IMIN3;60IMIN A;70B",
    "30EIGHT VARIANT FORM USSU;60USSU3;30NINE VARIANT FORM ILIMMU;60ILIMMU3;60ILIMMU4",
    "60ILIMMU A;30TWO ASH TENU;32THREE;32FOUR;32FIVE;32SIX;30ONE BAN2;31TWO;31THREE;31FOUR",
    "50VARIANT FORM;30FIVE BAN2;50VARIANT FORM;30NIGIDAMIN;30NIGIDAESH;30ONE ESHE3;31TWO",
    "30ONE THIRD DISH;31TWO THIRDS;31FIVE SIXTHS;30ONE THIRD VARIANT FORM A;33TWO THIRDS",
    "30ONE EIGHTH ASH;41QUARTER;30OLD ASSYRIAN ONE SIXTH;60QUARTER;30ONE QUARTER GUR;41HALF",
    "30ELAMITE ONE THIRD;40TWO THIRDS;40FORTY;40FIFTY;30FOUR U VARIANT FORM;33FIVE;33SIX",
    "33SEVEN;33EIGHT;33NINE"]⟩,
  ⟨0x12470, [
    "00CUNEIFORM PUNCTUATION SIGN OLD ASSYRIAN WORD DIVIDER;30VERTICAL COLON;31DIAGONAL",
    "40TRICOLON;40QUADCOLON"]⟩,
  ⟨0x12480, [
    "00CUNEIFORM SIGN AB TIMES NUN TENU;40SHU2;20AD TIMES ESH2;20BAD TIMES DISH TENU",
    "20BAHAR2 TIMES AB2;40NI;40ZA;20BU OVER BU TIMES NA2;20DA TIMES TAK4;20DAG TIMES KUR",
    "20DIM TIMES IGI;40U U U;20DIM2 TIMES UD;20DUG TIMES ANSHE;40ASH;50AT LEFT;40DIN;40DUN",
    "40ERIN2;40GA;40GI;40GIR2 GUNU;40GISH;40HA;40HI;40IGI GUNU;40KASKAL;40KUR;40KUSHU2",
    "50PLUS KASKAL;40LAK-020;40LAM;50TIMES KUR;40LUH PLUS GISH;40MASH;40MES;40MI;40NI;40PI",
    "40SHE;40SI GUNU;20E2 TIMES KUR;40PAP;20ERIN2 X;20ESH2 CROSSING ESH2",
    "20EZEN SHESHIG TIMES ASH;50HI;50IGI GUNU;50LA;50LAL;50ME;50MES;50SU;32;20GA2 TIMES BAHAR2",
    "40DIM GUNU;41DUG TIMES IGI;60KASKAL;40EREN;40GA;40GAR PLUS DI;60NE;40HA PLUS A",
    "40KUSHU2 PLUS KASKAL;40LAM;50TIMES KUR;40LUH;40MUSH;40NE;50PLUS E2;60GI;40SHIM;40ZIZ2",
    "20GABA ROTATED NINETY DEGREES;20GESHTIN TIMES U;20GISH TIMES GISH CROSSING GISH",
    "20GU2 TIMES IGI GUNU;20GUD PLUS GISH TIMES TAK4;20HA TENU GUNU",
    "20HI TIMES ASH OVER HI TIMES ASH;20KA TIMES BU;40KA;40U U U;40UR;20LAGAB TIMES ZU OVER ZU",
    "20LAK-003;20LAK-021;20LAK-025;20LAK-030;20LAK-050;20LAK-051;20LAK-062",
    "20LAK-079 OVER LAK-079 GUNU;20LAK-080;20LAK-081 OVER LAK-081;20LAK-092;20LAK-130;20LAK-142",
    "20LAK-210;20LAK-219;20LAK-220;20LAK-225;20LAK-228;20LAK-238;20LAK-265;20LAK-266;20LAK-343",
    "20LAK-347;20LAK-348;20LAK-383;20LAK-384;20LAK-390;20LAK-441;20LAK-449;30TIMES GU;40IGI",
    "40PAP PLUS LU3;61PAP PLUS;40U2 PLUS BA;20LAK-450;20LAK-457;20LAK-470;20LAK-483;20LAK-490",
    "20LAK-492;20LAK-493;20LAK-495;20LAK-550;20LAK-608;20LAK-617;30TIMES ASH;40BAD",
    "40DUN3 GUNU GUNU;40KU3;40LA;40TAR;40TE;40U2;40UD;40URUDA;20LAK-636;20LAK-648;30TIMES DUB",
    "40GA;40IGI;50GUNU;40NI;40PAP PLUS PAP PLUS LU3;40SHESH PLUS KI;40UD;40URUDA;20LAK-724",
    "20LAK-749;20LU2 GUNU TIMES ASH;30TIMES DISH;40HAL;40PAP;50PLUS PAP PLUS LU3;40TAK4",
    "20MI PLUS ZA7;20MUSH OVER MUSH TIMES GA;60KAK;20NINDA2 TIMES DIM GUNU;40GISH;40GUL;40HI",
    "40KESH2;40LAK-050;40MASH;40PAP PLUS PAP;40U;50PLUS U;40URUDA;20SAG GUNU TIMES HA",
    "30TIMES EN;40SHE AT LEFT;40TAK4;20SHA6 TENU;20SHE OVER SHE;30PLUS HUB2;40NAM2;40SAR",
    "20SHU2 PLUS DUG TIMES NI;40E2 TIMES AN;20SI TIMES TAK4;20TAK4 PLUS SAG",
    "20TUM TIMES GAN2 TENU;40THREE DISH;20UR2 INVERTED;30TIMES UD;20URU TIMES DARA3;40LAK-668",
    "40LU3;20ZA7;20ZU OVER ZU PLUS SAR;20ZU5 TIMES THREE DISH TENU"]⟩,
  ⟨0x12f90, [
    "00CYPRO-MINOAN SIGN CM001;20CM002;20CM004;20CM005;20CM006;20CM007;20CM008;20CM009;20CM010",
    "20CM011;20CM012;20CM012B;20CM013;20CM015;20CM017;20CM019;20CM021;20CM023;20CM024;20CM025",
    "20CM026;20CM027;20CM028;20CM029;20CM030;20CM033;20CM034;20CM035;20CM036;20CM037;20CM038",
    "20CM039;20CM040;20CM041;20CM044;20CM046;20CM047;20CM049;20CM050;20CM051;20CM052;20CM053",
    "20CM054;20CM055;20CM056;20CM058;20CM059;20CM060;20CM061;20CM062;20CM063;20CM064;20CM066",
    "20CM067;20CM068;20CM069;20CM070;20CM071;20CM072;20CM073;20CM074;20CM075;20CM075B;20CM076",
    "20CM078;20CM079;20CM080;20CM081;20CM082;20CM083;20CM084;20CM085;20CM086;20CM087;20CM088",
    "20CM089;20CM090;20CM091;20CM092;20CM094;20CM095;20CM096;20CM097;20CM098;20CM099;20CM100",
    "20CM101;20CM102;20CM103;20CM104;20CM105;20CM107;20CM108;20CM109;20CM110;20CM112;20CM114",
    "20CM301;20CM302"]⟩]

end QuasiGrammar.Text
