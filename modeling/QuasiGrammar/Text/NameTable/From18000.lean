import QuasiGrammar.Text.NameTable.Basic

/-
  QuasiGrammar.Text.NameTable.From18000
  ─────────────────────────────────────
  The names of characters from 18000 on:
  Tangut parts, kana extensions and shorthand.
-/

namespace QuasiGrammar.Text

/-- The runs of names that begin from `0x18000` on and before `0x1c000`. -/
def namesFrom18000 : List NameRun := [
  ⟨0x18800, [
    "00TANGUT COMPONENT-001;10COMPONENT-002;10COMPONENT-003;10COMPONENT-004;10COMPONENT-005",
    "10COMPONENT-006;10COMPONENT-007;10COMPONENT-008;10COMPONENT-009;10COMPONENT-010",
    "10COMPONENT-011;10COMPONENT-012;10COMPONENT-013;10COMPONENT-014;10COMPONENT-015",
    "10COMPONENT-016;10COMPONENT-017;10COMPONENT-018;10COMPONENT-019;10COMPONENT-020",
    "10COMPONENT-021;10COMPONENT-022;10COMPONENT-023;10COMPONENT-024;10COMPONENT-025",
    "10COMPONENT-026;10COMPONENT-027;10COMPONENT-028;10COMPONENT-029;10COMPONENT-030",
    "10COMPONENT-031;10COMPONENT-032;10COMPONENT-033;10COMPONENT-034;10COMPONENT-035",
    "10COMPONENT-036;10COMPONENT-037;10COMPONENT-038;10COMPONENT-039;10COMPONENT-040",
    "10COMPONENT-041;10COMPONENT-042;10COMPONENT-043;10COMPONENT-044;10COMPONENT-045",
    "10COMPONENT-046;10COMPONENT-047;10COMPONENT-048;10COMPONENT-049;10COMPONENT-050",
    "10COMPONENT-051;10COMPONENT-052;10COMPONENT-053;10COMPONENT-054;10COMPONENT-055",
    "10COMPONENT-056;10COMPONENT-057;10COMPONENT-058;10COMPONENT-059;10COMPONENT-060",
    "10COMPONENT-061;10COMPONENT-062;10COMPONENT-063;10COMPONENT-064;10COMPONENT-065",
    "10COMPONENT-066;10COMPONENT-067;10COMPONENT-068;10COMPONENT-069;10COMPONENT-070",
    "10COMPONENT-071;10COMPONENT-072;10COMPONENT-073;10COMPONENT-074;10COMPONENT-075",
    "10COMPONENT-076;10COMPONENT-077;10COMPONENT-078;10COMPONENT-079;10COMPONENT-080",
    "10COMPONENT-081;10COMPONENT-082;10COMPONENT-083;10COMPONENT-084;10COMPONENT-085",
    "10COMPONENT-086;10COMPONENT-087;10COMPONENT-088;10COMPONENT-089;10COMPONENT-090",
    "10COMPONENT-091;10COMPONENT-092;10COMPONENT-093;10COMPONENT-094;10COMPONENT-095",
    "10COMPONENT-096;10COMPONENT-097;10COMPONENT-098;10COMPONENT-099;10COMPONENT-100",
    "10COMPONENT-101;10COMPONENT-102;10COMPONENT-103;10COMPONENT-104;10COMPONENT-105",
    "10COMPONENT-106;10COMPONENT-107;10COMPONENT-108;10COMPONENT-109;10COMPONENT-110",
    "10COMPONENT-111;10COMPONENT-112;10COMPONENT-113;10COMPONENT-114;10COMPONENT-115",
    "10COMPONENT-116;10COMPONENT-117;10COMPONENT-118;10COMPONENT-119;10COMPONENT-120",
    "10COMPONENT-121;10COMPONENT-122;10COMPONENT-123;10COMPONENT-124;10COMPONENT-125",
    "10COMPONENT-126;10COMPONENT-127;10COMPONENT-128;10COMPONENT-129;10COMPONENT-130",
    "10COMPONENT-131;10COMPONENT-132;10COMPONENT-133;10COMPONENT-134;10COMPONENT-135",
    "10COMPONENT-136;10COMPONENT-137;10COMPONENT-138;10COMPONENT-139;10COMPONENT-140",
    "10COMPONENT-141;10COMPONENT-142;10COMPONENT-143;10COMPONENT-144;10COMPONENT-145",
    "10COMPONENT-146;10COMPONENT-147;10COMPONENT-148;10COMPONENT-149;10COMPONENT-150",
    "10COMPONENT-151;10COMPONENT-152;10COMPONENT-153;10COMPONENT-154;10COMPONENT-155",
    "10COMPONENT-156;10COMPONENT-157;10COMPONENT-158;10COMPONENT-159;10COMPONENT-160",
    "10COMPONENT-161;10COMPONENT-162;10COMPONENT-163;10COMPONENT-164;10COMPONENT-165",
    "10COMPONENT-166;10COMPONENT-167;10COMPONENT-168;10COMPONENT-169;10COMPONENT-170",
    "10COMPONENT-171;10COMPONENT-172;10COMPONENT-173;10COMPONENT-174;10COMPONENT-175",
    "10COMPONENT-176;10COMPONENT-177;10COMPONENT-178;10COMPONENT-179;10COMPONENT-180",
    "10COMPONENT-181;10COMPONENT-182;10COMPONENT-183;10COMPONENT-184;10COMPONENT-185",
    "10COMPONENT-186;10COMPONENT-187;10COMPONENT-188;10COMPONENT-189;10COMPONENT-190",
    "10COMPONENT-191;10COMPONENT-192;10COMPONENT-193;10COMPONENT-194;10COMPONENT-195",
    "10COMPONENT-196;10COMPONENT-197;10COMPONENT-198;10COMPONENT-199;10COMPONENT-200",
    "10COMPONENT-201;10COMPONENT-202;10COMPONENT-203;10COMPONENT-204;10COMPONENT-205",
    "10COMPONENT-206;10COMPONENT-207;10COMPONENT-208;10COMPONENT-209;10COMPONENT-210",
    "10COMPONENT-211;10COMPONENT-212;10COMPONENT-213;10COMPONENT-214;10COMPONENT-215",
    "10COMPONENT-216;10COMPONENT-217;10COMPONENT-218;10COMPONENT-219;10COMPONENT-220",
    "10COMPONENT-221;10COMPONENT-222;10COMPONENT-223;10COMPONENT-224;10COMPONENT-225",
    "10COMPONENT-226;10COMPONENT-227;10COMPONENT-228;10COMPONENT-229;10COMPONENT-230",
    "10COMPONENT-231;10COMPONENT-232;10COMPONENT-233;10COMPONENT-234;10COMPONENT-235",
    "10COMPONENT-236;10COMPONENT-237;10COMPONENT-238;10COMPONENT-239;10COMPONENT-240",
    "10COMPONENT-241;10COMPONENT-242;10COMPONENT-243;10COMPONENT-244;10COMPONENT-245",
    "10COMPONENT-246;10COMPONENT-247;10COMPONENT-248;10COMPONENT-249;10COMPONENT-250",
    "10COMPONENT-251;10COMPONENT-252;10COMPONENT-253;10COMPONENT-254;10COMPONENT-255",
    "10COMPONENT-256;10COMPONENT-257;10COMPONENT-258;10COMPONENT-259;10COMPONENT-260",
    "10COMPONENT-261;10COMPONENT-262;10COMPONENT-263;10COMPONENT-264;10COMPONENT-265",
    "10COMPONENT-266;10COMPONENT-267;10COMPONENT-268;10COMPONENT-269;10COMPONENT-270",
    "10COMPONENT-271;10COMPONENT-272;10COMPONENT-273;10COMPONENT-274;10COMPONENT-275",
    "10COMPONENT-276;10COMPONENT-277;10COMPONENT-278;10COMPONENT-279;10COMPONENT-280",
    "10COMPONENT-281;10COMPONENT-282;10COMPONENT-283;10COMPONENT-284;10COMPONENT-285",
    "10COMPONENT-286;10COMPONENT-287;10COMPONENT-288;10COMPONENT-289;10COMPONENT-290",
    "10COMPONENT-291;10COMPONENT-292;10COMPONENT-293;10COMPONENT-294;10COMPONENT-295",
    "10COMPONENT-296;10COMPONENT-297;10COMPONENT-298;10COMPONENT-299;10COMPONENT-300",
    "10COMPONENT-301;10COMPONENT-302;10COMPONENT-303;10COMPONENT-304;10COMPONENT-305",
    "10COMPONENT-306;10COMPONENT-307;10COMPONENT-308;10COMPONENT-309;10COMPONENT-310",
    "10COMPONENT-311;10COMPONENT-312;10COMPONENT-313;10COMPONENT-314;10COMPONENT-315",
    "10COMPONENT-316;10COMPONENT-317;10COMPONENT-318;10COMPONENT-319;10COMPONENT-320",
    "10COMPONENT-321;10COMPONENT-322;10COMPONENT-323;10COMPONENT-324;10COMPONENT-325",
    "10COMPONENT-326;10COMPONENT-327;10COMPONENT-328;10COMPONENT-329;10COMPONENT-330",
    "10COMPONENT-331;10COMPONENT-332;10COMPONENT-333;10COMPONENT-334;10COMPONENT-335",
    "10COMPONENT-336;10COMPONENT-337;10COMPONENT-338;10COMPONENT-339;10COMPONENT-340",
    "10COMPONENT-341;10COMPONENT-342;10COMPONENT-343;10COMPONENT-344;10COMPONENT-345",
    "10COMPONENT-346;10COMPONENT-347;10COMPONENT-348;10COMPONENT-349;10COMPONENT-350",
    "10COMPONENT-351;10COMPONENT-352;10COMPONENT-353;10COMPONENT-354;10COMPONENT-355",
    "10COMPONENT-356;10COMPONENT-357;10COMPONENT-358;10COMPONENT-359;10COMPONENT-360",
    "10COMPONENT-361;10COMPONENT-362;10COMPONENT-363;10COMPONENT-364;10COMPONENT-365",
    "10COMPONENT-366;10COMPONENT-367;10COMPONENT-368;10COMPONENT-369;10COMPONENT-370",
    "10COMPONENT-371;10COMPONENT-372;10COMPONENT-373;10COMPONENT-374;10COMPONENT-375",
    "10COMPONENT-376;10COMPONENT-377;10COMPONENT-378;10COMPONENT-379;10COMPONENT-380",
    "10COMPONENT-381;10COMPONENT-382;10COMPONENT-383;10COMPONENT-384;10COMPONENT-385",
    "10COMPONENT-386;10COMPONENT-387;10COMPONENT-388;10COMPONENT-389;10COMPONENT-390",
    "10COMPONENT-391;10COMPONENT-392;10COMPONENT-393;10COMPONENT-394;10COMPONENT-395",
    "10COMPONENT-396;10COMPONENT-397;10COMPONENT-398;10COMPONENT-399;10COMPONENT-400",
    "10COMPONENT-401;10COMPONENT-402;10COMPONENT-403;10COMPONENT-404;10COMPONENT-405",
    "10COMPONENT-406;10COMPONENT-407;10COMPONENT-408;10COMPONENT-409;10COMPONENT-410",
    "10COMPONENT-411;10COMPONENT-412;10COMPONENT-413;10COMPONENT-414;10COMPONENT-415",
    "10COMPONENT-416;10COMPONENT-417;10COMPONENT-418;10COMPONENT-419;10COMPONENT-420",
    "10COMPONENT-421;10COMPONENT-422;10COMPONENT-423;10COMPONENT-424;10COMPONENT-425",
    "10COMPONENT-426;10COMPONENT-427;10COMPONENT-428;10COMPONENT-429;10COMPONENT-430",
    "10COMPONENT-431;10COMPONENT-432;10COMPONENT-433;10COMPONENT-434;10COMPONENT-435",
    "10COMPONENT-436;10COMPONENT-437;10COMPONENT-438;10COMPONENT-439;10COMPONENT-440",
    "10COMPONENT-441;10COMPONENT-442;10COMPONENT-443;10COMPONENT-444;10COMPONENT-445",
    "10COMPONENT-446;10COMPONENT-447;10COMPONENT-448;10COMPONENT-449;10COMPONENT-450",
    "10COMPONENT-451;10COMPONENT-452;10COMPONENT-453;10COMPONENT-454;10COMPONENT-455",
    "10COMPONENT-456;10COMPONENT-457;10COMPONENT-458;10COMPONENT-459;10COMPONENT-460",
    "10COMPONENT-461;10COMPONENT-462;10COMPONENT-463;10COMPONENT-464;10COMPONENT-465",
    "10COMPONENT-466;10COMPONENT-467;10COMPONENT-468;10COMPONENT-469;10COMPONENT-470",
    "10COMPONENT-471;10COMPONENT-472;10COMPONENT-473;10COMPONENT-474;10COMPONENT-475",
    "10COMPONENT-476;10COMPONENT-477;10COMPONENT-478;10COMPONENT-479;10COMPONENT-480",
    "10COMPONENT-481;10COMPONENT-482;10COMPONENT-483;10COMPONENT-484;10COMPONENT-485",
    "10COMPONENT-486;10COMPONENT-487;10COMPONENT-488;10COMPONENT-489;10COMPONENT-490",
    "10COMPONENT-491;10COMPONENT-492;10COMPONENT-493;10COMPONENT-494;10COMPONENT-495",
    "10COMPONENT-496;10COMPONENT-497;10COMPONENT-498;10COMPONENT-499;10COMPONENT-500",
    "10COMPONENT-501;10COMPONENT-502;10COMPONENT-503;10COMPONENT-504;10COMPONENT-505",
    "10COMPONENT-506;10COMPONENT-507;10COMPONENT-508;10COMPONENT-509;10COMPONENT-510",
    "10COMPONENT-511;10COMPONENT-512;10COMPONENT-513;10COMPONENT-514;10COMPONENT-515",
    "10COMPONENT-516;10COMPONENT-517;10COMPONENT-518;10COMPONENT-519;10COMPONENT-520",
    "10COMPONENT-521;10COMPONENT-522;10COMPONENT-523;10COMPONENT-524;10COMPONENT-525",
    "10COMPONENT-526;10COMPONENT-527;10COMPONENT-528;10COMPONENT-529;10COMPONENT-530",
    "10COMPONENT-531;10COMPONENT-532;10COMPONENT-533;10COMPONENT-534;10COMPONENT-535",
    "10COMPONENT-536;10COMPONENT-537;10COMPONENT-538;10COMPONENT-539;10COMPONENT-540",
    "10COMPONENT-541;10COMPONENT-542;10COMPONENT-543;10COMPONENT-544;10COMPONENT-545",
    "10COMPONENT-546;10COMPONENT-547;10COMPONENT-548;10COMPONENT-549;10COMPONENT-550",
    "10COMPONENT-551;10COMPONENT-552;10COMPONENT-553;10COMPONENT-554;10COMPONENT-555",
    "10COMPONENT-556;10COMPONENT-557;10COMPONENT-558;10COMPONENT-559;10COMPONENT-560",
    "10COMPONENT-561;10COMPONENT-562;10COMPONENT-563;10COMPONENT-564;10COMPONENT-565",
    "10COMPONENT-566;10COMPONENT-567;10COMPONENT-568;10COMPONENT-569;10COMPONENT-570",
    "10COMPONENT-571;10COMPONENT-572;10COMPONENT-573;10COMPONENT-574;10COMPONENT-575",
    "10COMPONENT-576;10COMPONENT-577;10COMPONENT-578;10COMPONENT-579;10COMPONENT-580",
    "10COMPONENT-581;10COMPONENT-582;10COMPONENT-583;10COMPONENT-584;10COMPONENT-585",
    "10COMPONENT-586;10COMPONENT-587;10COMPONENT-588;10COMPONENT-589;10COMPONENT-590",
    "10COMPONENT-591;10COMPONENT-592;10COMPONENT-593;10COMPONENT-594;10COMPONENT-595",
    "10COMPONENT-596;10COMPONENT-597;10COMPONENT-598;10COMPONENT-599;10COMPONENT-600",
    "10COMPONENT-601;10COMPONENT-602;10COMPONENT-603;10COMPONENT-604;10COMPONENT-605",
    "10COMPONENT-606;10COMPONENT-607;10COMPONENT-608;10COMPONENT-609;10COMPONENT-610",
    "10COMPONENT-611;10COMPONENT-612;10COMPONENT-613;10COMPONENT-614;10COMPONENT-615",
    "10COMPONENT-616;10COMPONENT-617;10COMPONENT-618;10COMPONENT-619;10COMPONENT-620",
    "10COMPONENT-621;10COMPONENT-622;10COMPONENT-623;10COMPONENT-624;10COMPONENT-625",
    "10COMPONENT-626;10COMPONENT-627;10COMPONENT-628;10COMPONENT-629;10COMPONENT-630",
    "10COMPONENT-631;10COMPONENT-632;10COMPONENT-633;10COMPONENT-634;10COMPONENT-635",
    "10COMPONENT-636;10COMPONENT-637;10COMPONENT-638;10COMPONENT-639;10COMPONENT-640",
    "10COMPONENT-641;10COMPONENT-642;10COMPONENT-643;10COMPONENT-644;10COMPONENT-645",
    "10COMPONENT-646;10COMPONENT-647;10COMPONENT-648;10COMPONENT-649;10COMPONENT-650",
    "10COMPONENT-651;10COMPONENT-652;10COMPONENT-653;10COMPONENT-654;10COMPONENT-655",
    "10COMPONENT-656;10COMPONENT-657;10COMPONENT-658;10COMPONENT-659;10COMPONENT-660",
    "10COMPONENT-661;10COMPONENT-662;10COMPONENT-663;10COMPONENT-664;10COMPONENT-665",
    "10COMPONENT-666;10COMPONENT-667;10COMPONENT-668;10COMPONENT-669;10COMPONENT-670",
    "10COMPONENT-671;10COMPONENT-672;10COMPONENT-673;10COMPONENT-674;10COMPONENT-675",
    "10COMPONENT-676;10COMPONENT-677;10COMPONENT-678;10COMPONENT-679;10COMPONENT-680",
    "10COMPONENT-681;10COMPONENT-682;10COMPONENT-683;10COMPONENT-684;10COMPONENT-685",
    "10COMPONENT-686;10COMPONENT-687;10COMPONENT-688;10COMPONENT-689;10COMPONENT-690",
    "10COMPONENT-691;10COMPONENT-692;10COMPONENT-693;10COMPONENT-694;10COMPONENT-695",
    "10COMPONENT-696;10COMPONENT-697;10COMPONENT-698;10COMPONENT-699;10COMPONENT-700",
    "10COMPONENT-701;10COMPONENT-702;10COMPONENT-703;10COMPONENT-704;10COMPONENT-705",
    "10COMPONENT-706;10COMPONENT-707;10COMPONENT-708;10COMPONENT-709;10COMPONENT-710",
    "10COMPONENT-711;10COMPONENT-712;10COMPONENT-713;10COMPONENT-714;10COMPONENT-715",
    "10COMPONENT-716;10COMPONENT-717;10COMPONENT-718;10COMPONENT-719;10COMPONENT-720",
    "10COMPONENT-721;10COMPONENT-722;10COMPONENT-723;10COMPONENT-724;10COMPONENT-725",
    "10COMPONENT-726;10COMPONENT-727;10COMPONENT-728;10COMPONENT-729;10COMPONENT-730",
    "10COMPONENT-731;10COMPONENT-732;10COMPONENT-733;10COMPONENT-734;10COMPONENT-735",
    "10COMPONENT-736;10COMPONENT-737;10COMPONENT-738;10COMPONENT-739;10COMPONENT-740",
    "10COMPONENT-741;10COMPONENT-742;10COMPONENT-743;10COMPONENT-744;10COMPONENT-745",
    "10COMPONENT-746;10COMPONENT-747;10COMPONENT-748;10COMPONENT-749;10COMPONENT-750",
    "10COMPONENT-751;10COMPONENT-752;10COMPONENT-753;10COMPONENT-754;10COMPONENT-755",
    "10COMPONENT-756;10COMPONENT-757;10COMPONENT-758;10COMPONENT-759;10COMPONENT-760",
    "10COMPONENT-761;10COMPONENT-762;10COMPONENT-763;10COMPONENT-764;10COMPONENT-765",
    "10COMPONENT-766;10COMPONENT-767;10COMPONENT-768"]⟩,
  ⟨0x1aff0, ["00KATAKANA LETTER MINNAN TONE-2;30TONE-3;30TONE-4;30TONE-5"]⟩,
  ⟨0x1aff5, [
    "00KATAKANA LETTER MINNAN TONE-7;30TONE-8;30NASALIZED TONE-1;40TONE-2;40TONE-3;40TONE-4",
    "40TONE-5"]⟩,
  ⟨0x1affd, ["00KATAKANA LETTER MINNAN NASALIZED TONE-7;40TONE-8"]⟩,
  ⟨0x1b000, [
    "00KATAKANA LETTER ARCHAIC E;00HIRAGANA LETTER ARCHAIC YE;00HENTAIGANA LETTER A-1;20A-2",
    "20A-3;20A-WO;20I-1;20I-2;20I-3;20I-4;20U-1;20U-2;20U-3;20U-4;20U-5;20E-2;20E-3;20E-4;20E-5",
    "20E-6;20O-1;20O-2;20O-3;20KA-1;20KA-2;20KA-3;20KA-4;20KA-5;20KA-6;20KA-7;20KA-8;20KA-9",
    "20KA-10;20KA-11;20KA-KE;20KI-1;20KI-2;20KI-3;20KI-4;20KI-5;20KI-6;20KI-7;20KI-8;20KU-1",
    "20KU-2;20KU-3;20KU-4;20KU-5;20KU-6;20KU-7;20KE-1;20KE-2;20KE-3;20KE-4;20KE-5;20KE-6;20KO-1",
    "20KO-2;20KO-3;20KO-KI;20SA-1;20SA-2;20SA-3;20SA-4;20SA-5;20SA-6;20SA-7;20SA-8;20SI-1",
    "20SI-2;20SI-3;20SI-4;20SI-5;20SI-6;20SU-1;20SU-2;20SU-3;20SU-4;20SU-5;20SU-6;20SU-7;20SU-8",
    "20SE-1;20SE-2;20SE-3;20SE-4;20SE-5;20SO-1;20SO-2;20SO-3;20SO-4;20SO-5;20SO-6;20SO-7;20TA-1",
    "20TA-2;20TA-3;20TA-4;20TI-1;20TI-2;20TI-3;20TI-4;20TI-5;20TI-6;20TI-7;20TU-1;20TU-2;20TU-3",
    "20TU-4;20TU-TO;20TE-1;20TE-2;20TE-3;20TE-4;20TE-5;20TE-6;20TE-7;20TE-8;20TE-9;20TO-1",
    "20TO-2;20TO-3;20TO-4;20TO-5;20TO-6;20TO-RA;20NA-1;20NA-2;20NA-3;20NA-4;20NA-5;20NA-6",
    "20NA-7;20NA-8;20NA-9;20NI-1;20NI-2;20NI-3;20NI-4;20NI-5;20NI-6;20NI-7;20NI-TE;20NU-1",
    "20NU-2;20NU-3;20NE-1;20NE-2;20NE-3;20NE-4;20NE-5;20NE-6;20NE-KO;20NO-1;20NO-2;20NO-3",
    "20NO-4;20NO-5;20HA-1;20HA-2;20HA-3;20HA-4;20HA-5;20HA-6;20HA-7;20HA-8;20HA-9;20HA-10",
    "20HA-11;20HI-1;20HI-2;20HI-3;20HI-4;20HI-5;20HI-6;20HI-7;20HU-1;20HU-2;20HU-3;20HE-1",
    "20HE-2;20HE-3;20HE-4;20HE-5;20HE-6;20HE-7;20HO-1;20HO-2;20HO-3;20HO-4;20HO-5;20HO-6;20HO-7",
    "20HO-8;20MA-1;20MA-2;20MA-3;20MA-4;20MA-5;20MA-6;20MA-7;20MI-1;20MI-2;20MI-3;20MI-4;20MI-5",
    "20MI-6;20MI-7;20MU-1;20MU-2;20MU-3;20MU-4;20ME-1;20ME-2;20ME-MA;20MO-1;20MO-2;20MO-3",
    "20MO-4;20MO-5;20MO-6;20YA-1;20YA-2;20YA-3;20YA-4;20YA-5;20YA-YO;20YU-1;20YU-2;20YU-3",
    "20YU-4;20YO-1;20YO-2;20YO-3;20YO-4;20YO-5;20YO-6;20RA-1;20RA-2;20RA-3;20RA-4;20RI-1;20RI-2",
    "20RI-3;20RI-4;20RI-5;20RI-6;20RI-7;20RU-1;20RU-2;20RU-3;20RU-4;20RU-5;20RU-6;20RE-1;20RE-2",
    "20RE-3;20RE-4;20RO-1;20RO-2;20RO-3;20RO-4;20RO-5;20RO-6;20WA-1;20WA-2;20WA-3;20WA-4;20WA-5",
    "20WI-1;20WI-2;20WI-3;20WI-4;20WI-5;20WE-1;20WE-2;20WE-3;20WE-4;20WO-1;20WO-2;20WO-3;20WO-4",
    "20WO-5;20WO-6;20WO-7;20N-MU-MO-1;20N-MU-MO-2;00HIRAGANA LETTER ARCHAIC WU",
    "00KATAKANA LETTER ARCHAIC YI;30YE;30WU"]⟩,
  ⟨0x1b150, ["00HIRAGANA LETTER SMALL WI;30WE;30WO"]⟩,
  ⟨0x1b164, ["00KATAKANA LETTER SMALL WI;30WE;30WO;30N"]⟩,
  ⟨0x1bc00, [
    "00DUPLOYAN LETTER H;20X;20P;20T;20F;20K;20L;20B;20D;20V;20G;20R;20P N;20D S;20F N;20K M",
    "20R S;20TH;20SLOAN DH;21;20KK;20SLOAN J;20HL;20LH;20RH;20M;20N;20J;20S;20M N;20N M;21J",
    "20S J;20M WITH DOT;22N;22J;40DOTS INSIDE AND ABOVE;20S WITH DOT;50BELOW;20M S;21N;21J;21S",
    "21M N;21N M;22J;21S J;20J S WITH DOT;30N;40S;20S T;40R;30P;40R;20T S;31R;20W;20WH;20W R",
    "20S N;30M;20K R S;22G;20S K;40R;20A;20SLOAN OW;20OA;20O;20AOU;20I;20E;20IE;20SHORT I;20UI",
    "20EE;20SLOAN EH;20ROMANIAN I;20SLOAN EE;20LONG I;20YE;20U;20EU;20XW;20U N;20LONG U",
    "21ROMANIAN;20UH;20SLOAN U;20OOH;20OW;20OU;20WA;20WO;20WI;20WEI;20WOW;20NASAL U;30O;30I;30A",
    "20PERNIN AN;30AM;20SLOAN EN;30AN;30ON;20VOCALIC M"]⟩,
  ⟨0x1bc70, [
    "00DUPLOYAN AFFIX LEFT HORIZONTAL SECANT;22MID;22RIGHT;21LOW VERTICAL;22MID;22HIGH",
    "21ATTACHED;31LEFT-TO-RIGHT;30TANGENT;30TAIL;30E HOOK;31I;31TANGENT"]⟩,
  ⟨0x1bc80, [
    "00DUPLOYAN AFFIX HIGH ACUTE;31TIGHT;30GRAVE;31LONG;30DOT;30CIRCLE;30LINE;30WAVE;30VERTICAL"]⟩,
  ⟨0x1bc90, [
    "00DUPLOYAN AFFIX LOW ACUTE;31TIGHT;30GRAVE;31LONG;30DOT;30CIRCLE;30LINE;30WAVE;30VERTICAL",
    "30ARROW"]⟩,
  ⟨0x1bc9c, [
    "00DUPLOYAN SIGN O WITH CROSS;10THICK LETTER SELECTOR;10DOUBLE MARK",
    "10PUNCTUATION CHINOOK FULL STOP;00SHORTHAND FORMAT LETTER OVERLAP;21CONTINUING;20DOWN STEP",
    "21UP"]⟩]

end QuasiGrammar.Text
