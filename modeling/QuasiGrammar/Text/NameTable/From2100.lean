import QuasiGrammar.Text.NameTable.Basic

/-
  QuasiGrammar.Text.NameTable.From2100
  ────────────────────────────────────
  The names of characters from 2100 on:
  letter-like signs, number forms, arrows, operators and technical signs.
-/

namespace QuasiGrammar.Text

/-- The runs of names that begin from `0x2100` on and before `0x2400`. -/
def namesFrom2100 : List NameRun := [
  ⟨0x2100, [
    "00ACCOUNT OF;00ADDRESSED TO THE SUBJECT;00DOUBLE-STRUCK CAPITAL C;00DEGREE CELSIUS",
    "00CENTRE LINE SYMBOL;00CARE OF;00CADA UNA;00EULER CONSTANT;00SCRUPLE;00DEGREE FAHRENHEIT",
    "00SCRIPT SMALL G;10CAPITAL H;02BLACK-LETTER;02DOUBLE-STRUCK;00PLANCK CONSTANT",
    "20OVER TWO PI;00SCRIPT CAPITAL I;02BLACK-LETTER;00SCRIPT CAPITAL L;11SMALL",
    "00L B BAR SYMBOL;00DOUBLE-STRUCK CAPITAL N;00NUMERO SIGN;00SOUND RECORDING COPYRIGHT",
    "00SCRIPT CAPITAL P;02DOUBLE-STRUCK;20Q;00SCRIPT CAPITAL R;02BLACK-LETTER;02DOUBLE-STRUCK",
    "00PRESCRIPTION TAKE;00RESPONSE;00SERVICE MARK;00TELEPHONE SIGN;01TRADE MARK;00VERSICLE",
    "00DOUBLE-STRUCK CAPITAL Z;00OUNCE SIGN;01OHM;02INVERTED;00BLACK-LETTER CAPITAL Z",
    "00TURNED GREEK SMALL LETTER IOTA;00KELVIN SIGN;01ANGSTROM;00SCRIPT CAPITAL B",
    "00BLACK-LETTER CAPITAL C;00ESTIMATED SYMBOL;00SCRIPT SMALL E;11CAPITAL;20F;02TURNED",
    "00SCRIPT CAPITAL M;10SMALL O;00ALEF SYMBOL;01BET;01GIMEL;01DALET;00INFORMATION SOURCE",
    "00ROTATED CAPITAL Q;00FACSIMILE SIGN;00DOUBLE-STRUCK SMALL PI;20GAMMA;11CAPITAL;20PI",
    "10N-ARY SUMMATION;00TURNED SANS-SERIF CAPITAL G;30L;03REVERSED",
    "00TURNED SANS-SERIF CAPITAL Y;00DOUBLE-STRUCK ITALIC CAPITAL D;21SMALL;30E;30I;30J",
    "00PROPERTY LINE;00TURNED AMPERSAND;00PER SIGN;00AKTIESELSKAB;00TURNED SMALL F",
    "00SYMBOL FOR SAMARITAN SOURCE;00VULGAR FRACTION ONE SEVENTH;30NINTH;30TENTH;30THIRD",
    "20TWO THIRDS;20ONE FIFTH;20TWO FIFTHS;21THREE;21FOUR;20ONE SIXTH;20FIVE SIXTHS",
    "20ONE EIGHTH;20THREE EIGHTHS;21FIVE;21SEVEN;00FRACTION NUMERATOR ONE;01ROMAN NUMERAL;20TWO",
    "20THREE;20FOUR;20FIVE;20SIX;20SEVEN;20EIGHT;20NINE;20TEN;20ELEVEN;20TWELVE;20FIFTY",
    "20ONE HUNDRED;21FIVE;20ONE THOUSAND;00SMALL ROMAN NUMERAL ONE;30TWO;30THREE;30FOUR;30FIVE",
    "30SIX;30SEVEN;30EIGHT;30NINE;30TEN;30ELEVEN;30TWELVE;30FIFTY;30ONE HUNDRED;31FIVE",
    "30ONE THOUSAND;00ROMAN NUMERAL ONE THOUSAND C D;20FIVE THOUSAND;21TEN",
    "20REVERSED ONE HUNDRED;00LATIN SMALL LETTER REVERSED C;00ROMAN NUMERAL SIX LATE FORM",
    "21FIFTY EARLY;30THOUSAND;21ONE HUNDRED;00VULGAR FRACTION ZERO THIRDS;00TURNED DIGIT TWO",
    "20THREE"]⟩,
  ⟨0x2190, [
    "00LEFTWARDS ARROW;01UPWARDS;01RIGHTWARDS;01DOWNWARDS;01LEFT RIGHT;01UP DOWN;01NORTH WEST",
    "11EAST;02SOUTH;11WEST;00LEFTWARDS ARROW WITH STROKE;03RIGHTWARDS;00LEFTWARDS WAVE ARROW",
    "02RIGHTWARDS;01LEFTWARDS TWO HEADED;03UPWARDS;03RIGHTWARDS;03DOWNWARDS",
    "00LEFTWARDS ARROW WITH TAIL;03RIGHTWARDS;00LEFTWARDS ARROW FROM BAR;03UPWARDS;03RIGHTWARDS",
    "03DOWNWARDS;00UP DOWN ARROW WITH BASE;00LEFTWARDS ARROW WITH HOOK;03RIGHTWARDS",
    "00LEFTWARDS ARROW WITH LOOP;03RIGHTWARDS;00LEFT RIGHT WAVE ARROW;20ARROW WITH STROKE",
    "00DOWNWARDS ZIGZAG ARROW;00UPWARDS ARROW WITH TIP LEFTWARDS;40RIGHTWARDS",
    "00DOWNWARDS ARROW WITH TIP LEFTWARDS;40RIGHTWARDS;00RIGHTWARDS ARROW WITH CORNER DOWNWARDS",
    "00DOWNWARDS ARROW WITH CORNER LEFTWARDS;00ANTICLOCKWISE TOP SEMICIRCLE ARROW;03CLOCKWISE",
    "00NORTH WEST ARROW TO LONG BAR;01LEFTWARDS ARROW TO BAR OVER RIGHTWARDS ARROW TO",
    "00ANTICLOCKWISE OPEN CIRCLE ARROW;03CLOCKWISE;00LEFTWARDS HARPOON WITH BARB UPWARDS",
    "40DOWNWARDS;00UPWARDS HARPOON WITH BARB RIGHTWARDS;40LEFTWARDS",
    "00RIGHTWARDS HARPOON WITH BARB UPWARDS;40DOWNWARDS",
    "00DOWNWARDS HARPOON WITH BARB RIGHTWARDS;40LEFTWARDS",
    "00RIGHTWARDS ARROW OVER LEFTWARDS ARROW;01UPWARDS ARROW LEFTWARDS OF DOWNWARDS",
    "01LEFTWARDS ARROW OVER RIGHTWARDS;10PAIRED ARROWS;02UPWARDS;02RIGHTWARDS;02DOWNWARDS",
    "00LEFTWARDS HARPOON OVER RIGHTWARDS HARPOON;01RIGHTWARDS HARPOON OVER LEFTWARDS",
    "00LEFTWARDS DOUBLE ARROW WITH STROKE;04LEFT RIGHT;04RIGHTWARDS;00LEFTWARDS DOUBLE ARROW",
    "02UPWARDS;02RIGHTWARDS;02DOWNWARDS;02LEFT RIGHT;02UP DOWN;02NORTH WEST;12EAST;03SOUTH",
    "12WEST;01LEFTWARDS TRIPLE;02RIGHTWARDS;01LEFTWARDS SQUIGGLE;02RIGHTWARDS",
    "00UPWARDS ARROW WITH DOUBLE STROKE;04DOWNWARDS;00LEFTWARDS DASHED ARROW;02UPWARDS",
    "02RIGHTWARDS;02DOWNWARDS;00LEFTWARDS ARROW TO BAR;03RIGHTWARDS;00LEFTWARDS WHITE ARROW",
    "02UPWARDS;02RIGHTWARDS;02DOWNWARDS;00UPWARDS WHITE ARROW FROM BAR;30ON PEDESTAL",
    "50WITH HORIZONTAL BAR;61VERTICAL;20DOUBLE ARROW;40ON PEDESTAL",
    "00RIGHTWARDS WHITE ARROW FROM WALL;00NORTH WEST ARROW TO CORNER;03SOUTH EAST",
    "00UP DOWN WHITE ARROW;00RIGHT ARROW WITH SMALL CIRCLE",
    "00DOWNWARDS ARROW LEFTWARDS OF UPWARDS ARROW;00THREE RIGHTWARDS ARROWS",
    "00LEFTWARDS ARROW WITH VERTICAL STROKE;04RIGHTWARDS;04LEFT RIGHT",
    "02LEFTWARDS ARROW WITH DOUBLE;05RIGHTWARDS;05LEFT RIGHT;00LEFTWARDS OPEN-HEADED ARROW",
    "02RIGHTWARDS;02LEFT RIGHT;00FOR ALL;00COMPLEMENT;00PARTIAL DIFFERENTIAL;00THERE EXISTS",
    "10DOES NOT EXIST;00EMPTY SET;00INCREMENT;00NABLA;00ELEMENT OF;02NOT AN;02SMALL",
    "00CONTAINS AS MEMBER;02DOES NOT CONTAIN;02SMALL CONTAINS;00END OF PROOF;00N-ARY PRODUCT",
    "10COPRODUCT;10SUMMATION;00MINUS SIGN;01MINUS-OR-PLUS;00DOT PLUS;00DIVISION SLASH",
    "00SET MINUS;00ASTERISK OPERATOR;01RING;01BULLET;00SQUARE ROOT;01CUBE;01FOURTH",
    "00PROPORTIONAL TO;00INFINITY;00RIGHT ANGLE;01;01MEASURED;01SPHERICAL;00DIVIDES",
    "00DOES NOT DIVIDE;00PARALLEL TO;02NOT;00LOGICAL AND;10OR;00INTERSECTION;00UNION;00INTEGRAL",
    "01DOUBLE;01TRIPLE;01CONTOUR;01SURFACE;01VOLUME;01CLOCKWISE;11CONTOUR;02ANTICLOCKWISE",
    "00THEREFORE;00BECAUSE;00RATIO;00PROPORTION;00DOT MINUS;00EXCESS;00GEOMETRIC PROPORTION",
    "00HOMOTHETIC;00TILDE OPERATOR;00REVERSED TILDE;00INVERTED LAZY S;00SINE WAVE",
    "00WREATH PRODUCT;00NOT TILDE;01MINUS;00ASYMPTOTICALLY EQUAL TO;03NOT;02APPROXIMATELY",
    "12BUT NOT ACTUALLY;03NEITHER APPROXIMATELY NOR;02ALMOST;03NOT;02ALMOST EQUAL OR",
    "00TRIPLE TILDE;00ALL EQUAL TO;01EQUIVALENT;02GEOMETRICALLY;00DIFFERENCE BETWEEN",
    "00APPROACHES THE LIMIT;00GEOMETRICALLY EQUAL TO;00APPROXIMATELY EQUAL TO OR THE IMAGE OF",
    "00IMAGE OF OR APPROXIMATELY EQUAL TO;00COLON EQUALS;00EQUALS COLON;00RING IN EQUAL TO;12",
    "01CORRESPONDS;00ESTIMATES;00EQUIANGULAR TO;00STAR EQUALS;00DELTA EQUAL TO",
    "00EQUAL TO BY DEFINITION;00MEASURED BY;00QUESTIONED EQUAL TO;02NOT;01IDENTICAL;02NOT",
    "01STRICTLY EQUIVALENT;01LESS-THAN OR EQUAL;03GREATER-THAN;02LESS-THAN OVER;03GREATER-THAN",
    "02LESS-THAN BUT NOT;04GREATER-THAN;00MUCH LESS-THAN;10GREATER-THAN;00BETWEEN",
    "00NOT EQUIVALENT TO;10LESS-THAN;10GREATER-THAN;00NEITHER LESS-THAN NOR EQUAL TO",
    "13GREATER-THAN;01LESS-THAN OR EQUIVALENT;03GREATER-THAN;02NEITHER LESS-THAN NOR",
    "13GREATER-THAN;00LESS-THAN OR GREATER-THAN;00GREATER-THAN OR LESS-THAN",
    "00NEITHER LESS-THAN NOR GREATER-THAN;10GREATER-THAN NOR LESS-THAN;00PRECEDES;00SUCCEEDS",
    "00PRECEDES OR EQUAL TO;03SUCCEEDS;01PRECEDES OR EQUIVALENT;03SUCCEEDS;00DOES NOT PRECEDE",
    "20SUCCEED;00SUBSET OF;01SUPERSET;01NOT A SUBSET;21SUPERSET;00SUBSET OF OR EQUAL TO",
    "04SUPERSET;02NEITHER A SUBSET OF NOR;24SUPERSET;02SUBSET OF WITH NOT;05SUPERSET;00MULTISET",
    "10MULTIPLICATION;10UNION;00SQUARE IMAGE OF;11ORIGINAL;10IMAGE OF OR EQUAL TO;14ORIGINAL",
    "10CAP;10CUP;00CIRCLED PLUS;10MINUS;10TIMES;10DIVISION SLASH;10DOT OPERATOR;11RING",
    "11ASTERISK;10EQUALS;10DASH;00SQUARED PLUS;10MINUS;10TIMES;10DOT OPERATOR;00RIGHT TACK",
    "01LEFT;01DOWN;01UP;00ASSERTION;00MODELS;00TRUE;00FORCES",
    "00TRIPLE VERTICAL BAR RIGHT TURNSTILE;02DOUBLE VERTICAL BAR DOUBLE;00DOES NOT PROVE",
    "00NOT TRUE;00DOES NOT FORCE;00NEGATED DOUBLE VERTICAL BAR DOUBLE RIGHT TURNSTILE",
    "00PRECEDES UNDER RELATION;02SUCCEEDS;00NORMAL SUBGROUP OF;00CONTAINS AS NORMAL SUBGROUP",
    "00NORMAL SUBGROUP OF OR EQUAL TO;03CONTAINS AS NORMAL SUBGROUP;00ORIGINAL OF;01IMAGE",
    "00MULTIMAP;00HERMITIAN CONJUGATE MATRIX;00INTERCALATE;00XOR;00NAND;00NOR",
    "00RIGHT ANGLE WITH ARC;10TRIANGLE;00N-ARY LOGICAL AND;20OR;10INTERSECTION;10UNION",
    "00DIAMOND OPERATOR;01DOT;01STAR;00DIVISION TIMES;00BOWTIE",
    "00LEFT NORMAL FACTOR SEMIDIRECT PRODUCT;04RIGHT;02LEFT;02RIGHT;00REVERSED TILDE EQUALS",
    "00CURLY LOGICAL OR;20AND;00DOUBLE SUBSET;10SUPERSET;10INTERSECTION;10UNION;00PITCHFORK",
    "00EQUAL AND PARALLEL TO;00LESS-THAN WITH DOT;02GREATER-THAN;00VERY MUCH LESS-THAN",
    "20GREATER-THAN;01LESS-THAN EQUAL TO OR;00GREATER-THAN EQUAL TO OR LESS-THAN;04",
    "30GREATER-THAN;30PRECEDES;30SUCCEEDS;00DOES NOT PRECEDE OR EQUAL;22SUCCEED",
    "00NOT SQUARE IMAGE OF OR EQUAL TO;24ORIGINAL;02SQUARE IMAGE OF OR NOT;15ORIGINAL",
    "01LESS-THAN BUT NOT EQUIVALENT;04GREATER-THAN;04PRECEDES;04SUCCEEDS",
    "00NOT NORMAL SUBGROUP OF;00DOES NOT CONTAIN AS NORMAL SUBGROUP",
    "00NOT NORMAL SUBGROUP OF OR EQUAL TO;00DOES NOT CONTAIN AS NORMAL SUBGROUP OR EQUAL",
    "00VERTICAL ELLIPSIS;01MIDLINE HORIZONTAL;01UP RIGHT DIAGONAL;03DOWN",
    "00ELEMENT OF WITH LONG HORIZONTAL STROKE;32VERTICAL BAR AT END OF;0aSMALL",
    "00ELEMENT OF WITH DOT ABOVE;30OVERBAR;04SMALL;00ELEMENT OF WITH UNDERBAR",
    "30TWO HORIZONTAL STROKES;00CONTAINS WITH LONG HORIZONTAL STROKE;22VERTICAL BAR AT END OF",
    "09SMALL;00CONTAINS WITH OVERBAR;03SMALL;00Z NOTATION BAG MEMBERSHIP;00DIAMETER SIGN",
    "00ELECTRIC ARROW;00HOUSE;00UP ARROWHEAD;01DOWN;00PROJECTIVE;00PERSPECTIVE;00WAVY LINE",
    "00LEFT CEILING;01RIGHT;00LEFT FLOOR;01RIGHT;00BOTTOM RIGHT CROP;11LEFT;01TOP RIGHT;11LEFT",
    "00REVERSED NOT SIGN;00SQUARE LOZENGE;00ARC;00SEGMENT;00SECTOR;00TELEPHONE RECORDER",
    "00POSITION INDICATOR;00VIEWDATA SQUARE;00PLACE OF INTEREST SIGN;01TURNED NOT;00WATCH",
    "00HOURGLASS;00TOP LEFT CORNER;11RIGHT;01BOTTOM LEFT;11RIGHT;00TOP HALF INTEGRAL;02BOTTOM",
    "00FROWN;00SMILE;00UP ARROWHEAD BETWEEN TWO HORIZONTAL BARS;00OPTION KEY",
    "00ERASE TO THE RIGHT;00X IN A RECTANGLE BOX;00KEYBOARD;00LEFT-POINTING ANGLE BRACKET",
    "02RIGHT-POINTING;00ERASE TO THE LEFT;00BENZENE RING;00CYLINDRICITY;00ALL AROUND-PROFILE",
    "00SYMMETRY;00TOTAL RUNOUT;00DIMENSION ORIGIN;00CONICAL TAPER;00SLOPE;00COUNTERBORE",
    "00COUNTERSINK;00APL FUNCTIONAL SYMBOL I-BEAM;30SQUISH QUAD;30QUAD EQUAL;40DIVIDE;40DIAMOND",
    "40JOT;40CIRCLE;30CIRCLE STILE;40JOT;30SLASH BAR;31BACKSLASH;30QUAD SLASH;40BACKSLASH",
    "40LESS-THAN;40GREATER-THAN;30LEFTWARDS VANE;31RIGHTWARDS;30QUAD LEFTWARDS ARROW",
    "41RIGHTWARDS;30CIRCLE BACKSLASH;30DOWN TACK UNDERBAR;30DELTA STILE;30QUAD DOWN CARET",
    "40DELTA;30DOWN TACK JOT;30UPWARDS VANE;30QUAD UPWARDS ARROW;30UP TACK OVERBAR;30DEL STILE",
    "30QUAD UP CARET;40DEL;30UP TACK JOT;30DOWNWARDS VANE;30QUAD DOWNWARDS ARROW",
    "30QUOTE UNDERBAR;31DELTA;31DIAMOND;31JOT;31CIRCLE;30UP SHOE JOT;30QUOTE QUAD;30CIRCLE STAR",
    "30QUAD COLON;30UP TACK DIAERESIS;31DEL;31STAR;31JOT;31CIRCLE;30DOWN SHOE STILE;32LEFT",
    "30TILDE DIAERESIS;31GREATER-THAN;30COMMA BAR;30DEL TILDE;30ZILDE;30STILE TILDE",
    "30SEMICOLON UNDERBAR;30QUAD NOT EQUAL;40QUESTION;30DOWN CARET TILDE;32UP;30IOTA;30RHO",
    "30OMEGA;30ALPHA UNDERBAR;31EPSILON;31IOTA;31OMEGA;30ALPHA;00NOT CHECK MARK",
    "00RIGHT ANGLE WITH DOWNWARDS ZIGZAG ARROW;00SHOULDERED OPEN BOX;00BELL SYMBOL",
    "00VERTICAL LINE WITH MIDDLE DOT;00INSERTION SYMBOL;01CONTINUOUS UNDERLINE;02DISCONTINUOUS",
    "01EMPHASIS;01COMPOSITION;00WHITE SQUARE WITH CENTRE VERTICAL LINE;00ENTER SYMBOL",
    "01ALTERNATIVE KEY;01HELM;00CIRCLED HORIZONTAL BAR WITH NOTCH;10TRIANGLE DOWN",
    "00BROKEN CIRCLE WITH NORTHWEST ARROW;00UNDO SYMBOL;01MONOSTABLE;01HYSTERESIS",
    "01OPEN-CIRCUIT-OUTPUT H-TYPE;11L-TYPE;01PASSIVE-PULL-DOWN-OUTPUT;01PASSIVE-PULL-UP-OUTPUT",
    "00DIRECT CURRENT SYMBOL FORM TWO;00SOFTWARE-FUNCTION SYMBOL;00APL FUNCTIONAL SYMBOL QUAD",
    "00DECIMAL SEPARATOR KEY SYMBOL;00PREVIOUS PAGE;01NEXT;00PRINT SCREEN SYMBOL;02CLEAR",
    "00LEFT PARENTHESIS UPPER HOOK;20EXTENSION;20LOWER HOOK;01RIGHT PARENTHESIS UPPER",
    "20EXTENSION;20LOWER HOOK;00LEFT SQUARE BRACKET UPPER CORNER;30EXTENSION;30LOWER CORNER",
    "01RIGHT SQUARE BRACKET UPPER;30EXTENSION;30LOWER CORNER;00LEFT CURLY BRACKET UPPER HOOK",
    "30MIDDLE PIECE;30LOWER HOOK;00CURLY BRACKET EXTENSION;00RIGHT CURLY BRACKET UPPER HOOK",
    "30MIDDLE PIECE;30LOWER HOOK;00INTEGRAL EXTENSION;01HORIZONTAL LINE",
    "00UPPER LEFT OR LOWER RIGHT CURLY BRACKET SECTION;13RIGHT OR LOWER LEFT;00SUMMATION TOP",
    "10BOTTOM;00TOP SQUARE BRACKET;02BOTTOM;30OVER TOP SQUARE BRACKET;00RADICAL SYMBOL BOTTOM",
    "00LEFT VERTICAL BOX LINE;03RIGHT;00HORIZONTAL SCAN LINE-1;20LINE-3;20LINE-7;20LINE-9",
    "00DENTISTRY SYMBOL LIGHT VERTICAL AND TOP RIGHT;51BOTTOM;40WITH CIRCLE",
    "32DOWN AND HORIZONTAL;34UP;30VERTICAL WITH TRIANGLE;32DOWN AND HORIZONTAL;34UP",
    "30VERTICAL AND WAVE;31DOWN AND HORIZONTAL WITH;34UP;30DOWN AND HORIZONTAL;32UP",
    "30VERTICAL AND TOP LEFT;51BOTTOM;00SQUARE FOOT;00RETURN SYMBOL;01EJECT",
    "00VERTICAL LINE EXTENSION;00METRICAL BREVE;10LONG OVER SHORT;10SHORT OVER LONG",
    "10LONG OVER TWO SHORTS;10TWO SHORTS OVER LONG;30JOINED;10TRISEME;10TETRASEME;10PENTASEME",
    "00EARTH GROUND;00FUSE;00TOP PARENTHESIS;01BOTTOM;00TOP CURLY BRACKET;02BOTTOM",
    "01TOP TORTOISE SHELL;03BOTTOM;00WHITE TRAPEZIUM;00BENZENE RING WITH CIRCLE;00STRAIGHTNESS",
    "00FLATNESS;00AC CURRENT;00ELECTRICAL INTERSECTION;00DECIMAL EXPONENT SYMBOL",
    "00BLACK RIGHT-POINTING DOUBLE TRIANGLE;12LEFT-POINTING;12UP-POINTING;12DOWN-POINTING",
    "10RIGHT-POINTING DOUBLE TRIANGLE WITH VERTICAL BAR;15LEFT-POINTING",
    "12RIGHT-POINTING TRIANGLE WITH DOUBLE;00ALARM CLOCK;00STOPWATCH;00TIMER CLOCK",
    "00HOURGLASS WITH FLOWING SAND;00BLACK MEDIUM LEFT-POINTING TRIANGLE;21RIGHT-POINTING",
    "21UP-POINTING;21DOWN-POINTING;00DOUBLE VERTICAL BAR;00BLACK SQUARE FOR STOP",
    "10CIRCLE FOR RECORD;00POWER SYMBOL;11ON-OFF;11ON;11SLEEP;01OBSERVER EYE;00SYMBOL FOR NULL",
    "20START OF HEADING;40TEXT;22END;40TRANSMISSION;20ENQUIRY;20ACKNOWLEDGE;20BELL;20BACKSPACE",
    "20HORIZONTAL TABULATION;20LINE FEED;20VERTICAL TABULATION;20FORM FEED;20CARRIAGE RETURN",
    "20SHIFT OUT;30IN;20DATA LINK ESCAPE;20DEVICE CONTROL ONE;40TWO;40THREE;40FOUR",
    "20NEGATIVE ACKNOWLEDGE;20SYNCHRONOUS IDLE;20END OF TRANSMISSION BLOCK;20CANCEL",
    "20END OF MEDIUM;20SUBSTITUTE;20ESCAPE;20FILE SEPARATOR;21GROUP;21RECORD;21UNIT;20SPACE",
    "20DELETE;00BLANK SYMBOL;00OPEN BOX;00SYMBOL FOR NEWLINE;20DELETE FORM TWO;22SUBSTITUTE"]⟩]

end QuasiGrammar.Text
