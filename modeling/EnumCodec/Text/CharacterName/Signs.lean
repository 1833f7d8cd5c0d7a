/-!
# EnumCodec.Text.CharacterName.Signs

**The names of the characters from U+14000 to U+1CFFF.** The data are those of the Unicode standard,
version 14, with the aliases of characters; names that a rule of the standard gives are left out.
How an entry tells a name from the one before is said where the entries are read.
-/

namespace EnumCodec.Text

/-- The names of the characters from U+14000 to U+1CFFF. -/
def signNameRows : List String :=
  ["14400aANATOLIAN HIEROGLYPH A001,cA002,cA003,cA004,cA005,cA006,cA007,cA008,cA009,cA010,cA010A,",
   "cA011,cA012,cA013,cA014,cA015,cA016,cA017,cA018,cA019,cA020,cA021,cA022,cA023,cA024,cA025,",
   "cA026,cA026A,cA027,cA028,cA029,cA030,cA031,cA032,cA033,cA034,cA035,cA036,cA037,cA038,cA039,",
   "cA039A,cA040,cA041,cA041A,cA042,cA043,cA044,cA045,cA045A,cA046,cA046A,cA046B,cA047,cA048,",
   "cA049,cA050,cA051,cA052,cA053,cA054,cA055,cA056,cA057,cA058,cA059,cA060,cA061,cA062,cA063,",
   "cA064,cA065,cA066,cA066A,cA066B,cA066C,cA067,cA068,cA069,cA070,cA071,cA072,cA073,cA074,cA075,",
   "cA076,cA077,cA078,cA079,cA080,cA081,cA082,cA083,cA084,cA085,cA086,cA087,cA088,cA089,cA090,",
   "cA091,cA092,cA093,cA094,cA095,cA096,cA097,cA097A,cA098,cA098A,cA099,cA100,cA100A,cA101,cA101A,",
   "cA102,cA102A,cA103,cA104,cA104A,cA104B,cA104C,cA105,cA105A,cA105B,cA106,cA107,cA107A,cA107B,",
   "cA107C,cA108,cA109,cA110,cA110A,cA110B,cA111,cA112,cA113,cA114,cA115,cA115A,cA116,cA117,cA118,",
   "cA119,cA120,cA121,cA122,cA123,cA124,cA125,cA125A,cA126,cA127,cA128,cA129,cA130,cA131,cA132,",
   "cA133,cA134,cA135,cA135A,cA136,cA137,cA138,cA139,cA140,cA141,cA142,cA143,cA144,cA145,cA146,",
   "cA147,cA148,cA149,cA150,cA151,cA152,cA153,cA154,cA155,cA156,cA157,cA158,cA159,cA160,cA161,",
   "cA162,cA163,cA164,cA165,cA166,cA167,cA168,cA169,cA170,cA171,cA172,cA173,cA174,cA175,cA176,",
   "cA177,cA178,cA179,cA180,cA181,cA182,cA183,cA184,cA185,cA186,cA187,cA188,cA189,cA190,cA191,",
   "cA192,cA193,cA194,cA195,cA196,cA197,cA198,cA199,cA200,cA201,cA202,cA202A,cA202B,cA203,cA204,",
   "cA205,cA206,cA207,cA207A,cA208,cA209,cA209A,cA210,cA211,cA212,cA213,cA214,cA215,cA215A,cA216,",
   "cA216A,cA217,cA218,cA219,cA220,cA221,cA222,cA223,cA224,cA225,cA226,cA227,cA227A,cA228,cA229,",
   "cA230,cA231,cA232,cA233,cA234,cA235,cA236,cA237,cA238,cA239,cA240,cA241,cA242,cA243,cA244,",
   "cA245,cA246,cA247,cA248,cA249,cA250,cA251,cA252,cA253,cA254,cA255,cA256,cA257,cA258,cA259,",
   "cA260,cA261,cA262,cA263,cA264,cA265,cA266,cA267,cA267A,cA268,cA269,cA270,cA271,cA272,cA273,",
   "cA274,cA275,cA276,cA277,cA278,cA279,cA280,cA281,cA282,cA283,cA284,cA285,cA286,cA287,cA288,",
   "cA289,cA289A,cA290,cA291,cA292,cA293,cA294,cA294A,cA295,cA296,cA297,cA298,cA299,cA299A,cA300,",
   "cA301,cA302,cA303,cA304,cA305,cA306,cA307,cA308,cA309,cA309A,cA310,cA311,cA312,cA313,cA314,",
   "cA315,cA316,cA317,cA318,cA319,cA320,cA321,cA322,cA323,cA324,cA325,cA326,cA327,cA328,cA329,",
   "cA329A,cA330,cA331,cA332A,cA332B,cA332C,cA333,cA334,cA335,cA336,cA336A,cA336B,cA336C,cA337,",
   "cA338,cA339,cA340,cA341,cA342,cA343,cA344,cA345,cA346,cA347,cA348,cA349,cA350,cA351,cA352,",
   "cA353,cA354,cA355,cA356,cA357,cA358,cA359,cA359A,cA360,cA361,cA362,cA363,cA364,cA364A,cA365,",
   "cA366,cA367,cA368,cA368A,cA369,cA370,cA371,cA371A,cA372,cA373,cA374,cA375,cA376,cA377,cA378,",
   "cA379,cA380,cA381,cA381A,cA382,cA383 RA OR RI,cA383A,cA384,cA385,cA386,cA386A,cA387,cA388,",
   "cA389,cA390,cA391,cA392,cA393 EIGHT,cA394,cA395,cA396,cA397,cA398,cA399,cA400,cA401,cA402,",
   "cA403,cA404,cA405,cA406,cA407,cA408,cA409,cA410 BEGIN LOGOGRAM MARK,ccA410A END ,cA411,cA412,",
   "cA413,cA414,cA415,cA416,cA417,cA418,cA419,cA420,cA421,cA422,cA423,cA424,cA425,cA426,cA427,",
   "cA428,cA429,cA430,cA431,cA432,cA433,cA434,cA435,cA436,cA437,cA438,cA439,cA440,cA441,cA442,",
   "cA443,cA444,cA445,cA446,cA447,cA448,cA449,cA450,cA450A,cA451,cA452,cA453,cA454,cA455,cA456,",
   "cA457,cA457A,cA458,cA459,cA460,cA461,cA462,cA463,cA464,cA465,cA466,cA467,cA468,cA469,cA470,",
   "cA471,cA472,cA473,cA474,cA475,cA476,cA477,cA478,cA479,cA480,cA481,cA482,cA483,cA484,cA485,",
   "cA486,cA487,cA488,cA489,cA490,cA491,cA492,cA493,cA494,cA495,cA496,cA497,cA501,cA502,cA503,",
   "cA504,cA505,cA506,cA507,cA508,cA509,cA510,cA511,cA512,cA513,cA514,cA515,cA516,cA517,cA518,",
   "cA519,cA520,cA521,cA522,cA523,cA524,cA525,cA526,cA527,cA528,cA529,cA530,",
   "21BAaBAMUM LETTER PHASE-A NGKUE MFON,eGBIEE FON,ePON MFON PIPAEMGBIEE,gPIPAEMBA,eNAA MFON,",
   "eSHUENSHUET,eTITA MFON,ebNZA ,eSHINDA PA NJI,ePON PA NJI PIPAEMGBIEE,hPIPAEMBA,eMAEMBGBIEE,",
   "eTU MAEMBA,eNGANGU,eMAEMVEUX,eMANSUAE,eMVEUAENGAM,eSEUNYAM,eNTOQPEN,eKEUKEUTNDA,eNKINDI,eSUU,",
   "eNGKUENZEUM,eLAPAQ,eLET KUT,eNTAP MFAA,eMAEKEUP,ePASHAE,eGHEUAERAE,ePAMSHAE,eMON NGGEUAET,",
   "eNZUN MEUT,eU YUQ NAE,eGHEUAEGHEUAE,eNTAP NTAA,eSISA,eMGBASA,eMEUNJOMNDEUQ,eMOOMPUQ,eKAFA,",
   "ePA LEERAEWA,ebNDA ,ePET,eMAEMKPEN,eNIKA,ePUP,eTUAEP,eLUAEP,eSONJAM,eTEUTEUWEN,eMAENYI,eKET,",
   "eNDAANGGEUAET,eKUOQ,eMOOMEUT,eSHUM,eLOMMAE,eFIRI,eROM,eKPOQ,eSOQ,eMAP PIEET,eSHIRAE,eNTAP,",
   "eSHOQ NSHUT YUM,eNYIT MONGKEUAEQ,ePAARAE,eNKAARAE,eUNKNOWN,eNGGEN,eMAESI,eNJAM,eMBANYI,eNYET,",
   "eTEUAEN,eSOT,ePAAM,eNSHIEE,eMAEM,eNYI,eKAQ,eNSHA,eVEE,eLU,eNEN,eNAQ,eMBAQ,dB NSHUET,",
   "eTU MAEMGBIEE,eSIEE,eSET TU,eLOM NTEUM,eMBA MAELEE,eKIEEM,eYEURAE,eMBAARAE,eKAM,ePEESHI,",
   "eYAFU LEERAEWA,eLAM NSHUT NYAM,eNTIEE SHEUOQ,eNDU NJAA,eGHEUGHEUAEM,ePIT,eTU NSIEE,eSHET NJAQ,",
   "eSHEUAEQTU,eMFON TEUAEQ,eMBIT MBAAKET,eNYI NTEUM,eKEUPUQ,eGHEUGHEN,eKEUYEUX,eLAANAE,ePARUM,",
   "eVEUM,eNGKINDI MVOP,eNGGEU MBU,eWUAET,eSAKEUAE,eTAAM,eMEUQ,eNGGUOQ,eNGGUOQ LARGE,eMFIYAQ,eSUE,",
   "eMBEURI,eMONTIEEN,eNYAEMAE,ePUNGAAM,eMEUT NGGEET,eFEUX,eMBUOQ,eFEE,eKEUAEM,eMA NJEUAENA,",
   "fNJUQA,eLET,eNGGAAM,eNSEN,eMA,eKIQ,eNGOM,dC NGKUE MAEMBA,eNZA,eYUM,eWANGKUOQ,eNGGEN,",
   "eNDEUAEREE,eNGKAQ,eGHARAE,eMBEEKEET,eGBAYI,eNYIR MKPARAQ MEUN,eNTU MBIT,eMBEUM,ePIRIEEN,",
   "eNDOMBU,eMBAA CABBAGE-TREE,eKEUSHEUAEP,eGHAP,eKEUKAQ,eYU MUOMAE,eNZEUM,eMBUE,eNSEUAEN,eMBIT,",
   "eYEUQ,eKPARAQ,eKAA,eSEUX,eNDIDA,eTAASHAE,eNJUEQ,eTITA YUE,eSUAET,eNGGUAEN NYAM,eVEUX,",
   "eNANSANAQ,eMA KEUAERI,eNTAA,eNGGUON,eLAP,eMBIRIEEN,eMGBASAQ,eNTEUNGBA,eTEUTEUX,eNGGUM,eFUE,",
   "eNDEUT,eNSA,eNSHAQ,eBUNG,eVEUAEPEN,eMBERAE,eRU,eNJAEM,eLAM,eTITUAEP,eNSUOT NGOM,eNJEEEE,eKET,",
   "eNGGU,eMAESI,eMBUAEM,eLU,eKUT,eNJAM,eNGOM,eWUP,eNGGUEET,eNSOM,eNTEN,eKUOP NKAARAE,eNSUN,eNDAM,",
   "eMA NSIEE,eYAA,eNDAP,eSHUEQ,eSETFON,eMBI,eMAEMBA,eMBANYI,eKEUSEUX,eMBEUX,eKEUM,eMBAA PICKET,",
   "eYUWOQ,eNJEUX,eMIEE,eMUAE,eSHIQ,eKEN LAW,fFATIGUE,eNGAQ,eNAQ,eLIQ,ePIN,ePEN,eTET,dD MBUO,eWAP,",
   "eNJI,eMFON,eNJIEE,eLIEE,eNJEUT,eNSHEE,eNGGAAMAE,eNYAM,eWUAEN,eNGKUN,eSHEE,eNGKAP,eKEUAETMEUN,",
   "eTEUT,eSHEUAE,eNJAP,eSUE,eKET,eYAEMMAE,eKUOM,eSAP,eMFEUT,eNDEUX,eMALEERI,eMEUT,eSEUAEQ,eYEN,",
   "eNJEUAEM,eKEUOT MBUAE,eNGKEURI,eTU,eGHAA,eNGKYEE,eFEUFEUAET,eNDEE,eMGBOFUM,eLEUAEP,eNDON,",
   "eMONI,eMGBEUN,ePUUT,eMGBIEE,eMFO,eLUM,eNSIEEP,eMBAA,eKWAET,eNYET,eTEUAEN,eSOT,eYUWOQ,eKEUM,",
   "eRAEM,eTEEEE,eNGKEUAEQ,eMFEUAE,eNSIEET,eKEUP,ePIP,ePEUTAE,eNYUE,eLET,eNGGAAM,eMFIEE,eNGGWAEN,",
   "eYUOM,ePAP,eYUOP,eNDAM,eNTEUM,eSUAE,eKUN,eNGGEUX,eNGKIEE,eTUOT,eMEUN,eKUQ,eNSUM,eTEUN,",
   "eMAENJET,eNGGAP,eLEUM,eNGGUOM,eNSHUT,eNJUEQ,eGHEUAE,eKU,eREN OLD,eTAE,eTOQ,eNYI,eRII,eLEEEE,",
   "eMEEEE,eM,eSUU,eMU,eSHII,eSHEUX,eKYEE,eNU,eSHU,eNTEE,ePEE,eNI,eSHOQ,ePUQ,eMVOP,eLOQ,eREN MUCH,",
   "eTI,eNTUU,eMBAA SEVEN,eSAQ,eFAA,dE NDAP,eTOON,eMBEUM,eLAP,eVOM,eLOON,ePAA,eSOM,eRAQ,eNSHUOP,",
   "eNDUN,ePUAE,eTAM,eNGKA,eKPEUX,eWUO,eSEE,eNGGEUAET,ePAAM,eTOO,eKUOP,eLOM,eNSHIEE,eNGOP,eMAEM,",
   "eNGKEUX,eNGOQ,eNSHUE,eRIMGBA,eNJEUX,ePEEM,eSAA,eNGGURAE,eMGBA,eGHEUX,eNGKEUAEM,eNJAEMLI,eMAP,",
   "eLOOT,eNGGEEEE,eNDIQ,eTAEN NTEUM,eSET,ePUM,eNDAA SOFTNESS,eNGGUAESHAE NYAM,eYIEE,eGHEUN,eTUAE,",
   "eYEUAE,ePO,eTUMAE,eKEUAE,eSUAEN,eTEUAEQ,eVEUAE,eWEUX,eLAAM,ePU,eTAAQ,eGHAAMAE,eNGEUREUT,",
   "eSHEUAEQ,eMGBEN,eMBEE,eNZAQ,eNKOM,eGBET,eTUM,eKUET,eYAP,eNYI CLEAVER,eYIT,eMFEUQ,eNDIAQ,",
   "ePIEEQ,eYUEQ,eLEUAEM,eFUE,eGBEUX,eNGKUP,eKET,eMAE,eNGKAAMI,eGHET,eFA,eNTUM,ePEUT,eYEUM,",
   "eNGGEUAE,eNYI BETWEEN,eNZUQ,ePOON,eMIEE,eFUET,eNAE,eMUAE,eGHEUAE,eFU I,eMVI,ePUAQ,eNGKUM,eKUT,",
   "ePIET,eNTAP,eYEUAET,eNGGUP,ePA PEOPLE,eFU CALL,eFOM,eNJEE,eA,eTOQ,eO,eI,eLAQ,ePA PLURAL,eTAA,",
   "eTAQ,eNDAA MY HOUSE,eSHIQ,eYEUX,eNGUAE,eYUAEN,eYOQ SWIMMING,fCOVER,eYUQ,eYUN,eKEUX,ePEUX,",
   "eNJEE EPOCH,ePUE,eWUE,eFEE,eVEE,eLU,eMI,eREUX,eRAE,eNGUAET,eNGA,eSHO,eSHOQ,eFU REMEDY,eNA,ePI,",
   "eLOQ,eKO,eMEN,eMA,eMAQ,eTEU,eKI,eMON,eTEN,eFAQ,eGHOM,dF KA,eU,eKU,eEE,eREE,eTAE,eNYI,eLA,eRII,",
   "eRIEE,eMEEEE,eTAA,eNDAA,eNJAEM,eM,eSUU,eSHII,eSI,eSEUX,eKYEE,eKET,eNUAE,eNU,eNJUAE,eYOQ,eSHU,",
   "eYA,eNSHA,ePEUX,eNTEE,eWUE,ePEE,eRU,eNI,eREUX,eKEN,eNGKWAEN,eNGGA,eSHO,ePUAE,eFOM,eWA,eLI,",
   "eLOQ,eKO,eMBEN,eREN,eMA,eMO,eMBAA,eTET,eKPA,eSAMBA,eVUEQ,8aMRO LETTER TA,cNGI,cYO,cMIM,cBA,",
   "cDA,cA,cPHI,cKHAI,cHAO,cDAI,cCHU,cKEAAE,cOL,cMAEM,cNIN,cPA,cOO,cO,cRO,cSHI,cTHEA,cEA,cWA,cE,",
   "cKO,cLAN,cLA,cHAI,cRI,cTEK,2bDIGIT ZERO,cONE,cTWO,cTHREE,cFOUR,cFIVE,cSIX,cSEVEN,cEIGHT,cNINE,",
   "5bDANDA,bbDOUBLE ,aTANGSA LETTER OZ,cOC,cOQ,cOX,cAZ,cAC,cAQ,cAX,cVZ,cVC,cVQ,cVX,cEZ,cEC,cEQ,",
   "cEX,cIZ,cIC,cIQ,cIX,cUZ,cUC,cUQ,cUX,cAWZ,cAWC,cAWQ,cAWX,cUIZ,cUIC,cUIQ,cUIX,cFINAL NG,",
   "cLONG UEX,cSHORT UEZ,dAWX,cUEC,cUEZ,cUEQ,cUEX,cUIUZ,cUIUC,cUIUQ,cUIUX,cMZ,cMC,cMQ,cMX,cKA,",
   "cKHA,cGA,cNGA,cSA,cYA,cWA,cPA,cNYA,cPHA,cBA,cMA,cNA,cHA,cLA,cHTA,cTA,cDA,cRA,cNHA,cSHA,cCA,",
   "cTSA,cGHA,cHTTA,cTHA,cXA,cFA,cDHA,cCHA,cZA,2bDIGIT ZERO,cONE,cTWO,cTHREE,cFOUR,cFIVE,cSIX,",
   "cSEVEN,cEIGHT,cNINE,7aBASSA VAH LETTER ENNI,dKA,dSE,dFA,dMBE,dYIE,dGAH,dDHII,dKPAH,dJO,dHWAH,",
   "dWA,dZO,dGBU,dDO,dCE,dUWU,dTO,dBA,dVU,dYEIN,dPA,dWADDA,dA,dO,dOO,dU,dEE,dE,dI,",
   "3cCOMBINING HIGH TONE,dbLOW ,dbMID ,dcLOW-,dbHIGH-LOW ,cFULL STOP,BaPAHAWH HMONG VOWEL KEEB,",
   "dKEEV,dKIB,dKIV,dKAUB,dKAUV,dKUB,dKUV,dKEB,dKEV,dKAIB,dKAIV,dKOOB,dKOOV,dKAWB,dKAWV,dKUAB,",
   "dKUAV,dKOB,dKOV,dKIAB,dKIAV,dKAB,dKAV,dKWB,dKWV,dKAAB,dKAAV,cCONSONANT VAU,dNTSAU,dLAU,dHAU,",
   "dNLAU,dRAU,dNKAU,dQHAU,dYAU,dHLAU,dMAU,dCHAU,dNCHAU,dHNAU,dPLHAU,dNTHAU,dNAU,dAU,dXAU,dCAU,",
   "cMARK CIM TUB,eSO,eKES,eKHAV,eSUAM,eHOM,eTAUM,cSIGN VOS THOM,eTSHAB CEEB,dCIM CHEEM,",
   "dVOS THIAB,eFEEM,dXYEEM NTXIV,eRHO,eTOV,eFAIB,dVOS SEEV,dMEEJ SUAB,dVOS NRUA,dIB YAM,dXAUS,",
   "dCIM TSOV ROG,BcDIGIT ZERO,dONE,dTWO,dTHREE,dFOUR,dFIVE,dSIX,dSEVEN,dEIGHT,dNINE,",
   "2cNUMBER TENS,dHUNDREDS,dTEN THOUSANDS,dMILLIONS,dbHUNDRED ,dTEN BILLIONS,dTRILLIONS,",
   "2cSIGN VOS LUB,dXYOO,dHLI,dbTHIRD-STAGE ,dZWJ THAJ,dHNUB,dNQIG,dXIAB,dNTUJ,dAV,dTXHEEJ CEEV,",
   "dMEEJ TSEEB,dTAU,dLOS,dMUS,dCIM HAIS LUS NTOG NTOG,eCUAM TSHOOJ,eTXWV,eTXWV CHWV,ePUB DAWB,",
   "eNRES TOS,6cCLAN SIGN TSHEEJ,eYEEG,eLIS,eLAUJ,eXYOOJ,eKOO,eHAWJ,eMUAS,eTHOJ,eTSAB,ePHAB,eKHAB,",
   "eHAM,eVAJ,eFAJ,eYAJ,eTSWB,eKWM,eVWJ,2B1aMEDEFAIDRIN CAPITAL LETTER M,dS,dV,dW,dATIU,dZ,dKP,dP,",
   "dT,dG,dF,dI,dK,dA,dJ,dE,dB,dC,dU,dYU,dL,dQ,dHP,0dH,dNY,0dNG,dX,dD,dOE,dN,dR,dO,dAI,dY,",
   "bSMALL LETTER M,dS,dV,dW,dATIU,dZ,dKP,dP,dT,dG,dF,dI,dK,dA,dJ,dE,dB,dC,dU,dYU,dL,dQ,dHP,0dH,",
   "dNY,0dNG,dX,dD,dOE,dN,dR,dO,dAI,dY,bDIGIT ZERO,cONE,cTWO,cTHREE,cFOUR,cFIVE,cSIX,cSEVEN,",
   "cEIGHT,cNINE,bNUMBER TEN,cELEVEN,cTWELVE,cTHIRTEEN,cFOURTEEN,cFIFTEEN,cSIXTEEN,cSEVENTEEN,",
   "cEIGHTEEN,cNINETEEN,bDIGIT ONE ALTERNATE FORM,ccTWO ,ccTHREE ,bCOMMA,bFULL STOP,bSYMBOL AIVA,",
   "bEXCLAMATION OH,66aMIAO LETTER PA,cBA,cYI PA,cPLA,cMA,cMHA,cARCHAIC MA,cFA,cVA,cVFA,cTA,cDA,",
   "cYI TTA,dTA,cTTA,cDDA,cNA,cNHA,cYI NNA,cARCHAIC NA,cNNA,cNNHA,cLA,cLYA,cLHA,cLHYA,cTLHA,cDLHA,",
   "cTLHYA,cDLHYA,cKA,cGA,cYI KA,cQA,cQGA,cNGA,cNGHA,cARCHAIC NGA,cHA,cXA,cGHA,cGHHA,cTSSA,cDZZA,",
   "cNYA,cNYHA,cTSHA,cDZHA,cYI TSHA,dDZHA,cREFORMED TSHA,cSHA,cSSA,cZHA,cZSHA,cTSA,cDZA,cYI TSA,",
   "cSA,cZA,cZSA,cZZA,cZZSA,cARCHAIC ZZA,cZZYA,cZZSYA,cWA,cAH,cHHA,cBRI,cSYI,cDZYI,cTE,cTSE,cRTE,",
   "5bSIGN CONSONANT MODIFIER BAR,bLETTER NASALIZATION,bSIGN ASPIRATION,cREFORMED VOICING,",
   "dASPIRATION,bVOWEL SIGN A,dAA,dAHH,dAN,dANG,dO,dOO,dWO,dW,dE,dEN,dENG,dOEY,dI,dIA,dIAN,dIANG,",
   "dIO,dIE,dII,dIU,dING,dU,dUA,dUAN,dUANG,dUU,dUEI,dUNG,dY,dYI,dAE,dAEE,dERR,dbROUNDED ,dER,",
   "dbROUNDED ,dAI,dEI,dAU,dOU,dN,dNG,dUOG,dYUI,dOG,dOER,dVW,dIG,dEA,dIONG,dUI,8bTONE RIGHT,",
   "cbTOP ,cABOVE,cBELOW,bLETTER TONE-2,d3,d4,d5,d6,d7,d8,cREFORMED TONE-1,e2,e4,e5,e6,e8,",
   "41aTANGUT ITERATION MARK,acNUSHU ,abOLD CHINESE HOOK ,cbITERATION ,",
   "aKHITAN SMALL SCRIPT FILLER,CaVIETNAMESE ALTERNATE READING MARK CA,eNHAY,",
   "180FaTANGUT COMPONENT-001,c002,c003,c004,c005,c006,c007,c008,c009,c010,c011,c012,c013,c014,",
   "c015,c016,c017,c018,c019,c020,c021,c022,c023,c024,c025,c026,c027,c028,c029,c030,c031,c032,",
   "c033,c034,c035,c036,c037,c038,c039,c040,c041,c042,c043,c044,c045,c046,c047,c048,c049,c050,",
   "c051,c052,c053,c054,c055,c056,c057,c058,c059,c060,c061,c062,c063,c064,c065,c066,c067,c068,",
   "c069,c070,c071,c072,c073,c074,c075,c076,c077,c078,c079,c080,c081,c082,c083,c084,c085,c086,",
   "c087,c088,c089,c090,c091,c092,c093,c094,c095,c096,c097,c098,c099,c100,c101,c102,c103,c104,",
   "c105,c106,c107,c108,c109,c110,c111,c112,c113,c114,c115,c116,c117,c118,c119,c120,c121,c122,",
   "c123,c124,c125,c126,c127,c128,c129,c130,c131,c132,c133,c134,c135,c136,c137,c138,c139,c140,",
   "c141,c142,c143,c144,c145,c146,c147,c148,c149,c150,c151,c152,c153,c154,c155,c156,c157,c158,",
   "c159,c160,c161,c162,c163,c164,c165,c166,c167,c168,c169,c170,c171,c172,c173,c174,c175,c176,",
   "c177,c178,c179,c180,c181,c182,c183,c184,c185,c186,c187,c188,c189,c190,c191,c192,c193,c194,",
   "c195,c196,c197,c198,c199,c200,c201,c202,c203,c204,c205,c206,c207,c208,c209,c210,c211,c212,",
   "c213,c214,c215,c216,c217,c218,c219,c220,c221,c222,c223,c224,c225,c226,c227,c228,c229,c230,",
   "c231,c232,c233,c234,c235,c236,c237,c238,c239,c240,c241,c242,c243,c244,c245,c246,c247,c248,",
   "c249,c250,c251,c252,c253,c254,c255,c256,c257,c258,c259,c260,c261,c262,c263,c264,c265,c266,",
   "c267,c268,c269,c270,c271,c272,c273,c274,c275,c276,c277,c278,c279,c280,c281,c282,c283,c284,",
   "c285,c286,c287,c288,c289,c290,c291,c292,c293,c294,c295,c296,c297,c298,c299,c300,c301,c302,",
   "c303,c304,c305,c306,c307,c308,c309,c310,c311,c312,c313,c314,c315,c316,c317,c318,c319,c320,",
   "c321,c322,c323,c324,c325,c326,c327,c328,c329,c330,c331,c332,c333,c334,c335,c336,c337,c338,",
   "c339,c340,c341,c342,c343,c344,c345,c346,c347,c348,c349,c350,c351,c352,c353,c354,c355,c356,",
   "c357,c358,c359,c360,c361,c362,c363,c364,c365,c366,c367,c368,c369,c370,c371,c372,c373,c374,",
   "c375,c376,c377,c378,c379,c380,c381,c382,c383,c384,c385,c386,c387,c388,c389,c390,c391,c392,",
   "c393,c394,c395,c396,c397,c398,c399,c400,c401,c402,c403,c404,c405,c406,c407,c408,c409,c410,",
   "c411,c412,c413,c414,c415,c416,c417,c418,c419,c420,c421,c422,c423,c424,c425,c426,c427,c428,",
   "c429,c430,c431,c432,c433,c434,c435,c436,c437,c438,c439,c440,c441,c442,c443,c444,c445,c446,",
   "c447,c448,c449,c450,c451,c452,c453,c454,c455,c456,c457,c458,c459,c460,c461,c462,c463,c464,",
   "c465,c466,c467,c468,c469,c470,c471,c472,c473,c474,c475,c476,c477,c478,c479,c480,c481,c482,",
   "c483,c484,c485,c486,c487,c488,c489,c490,c491,c492,c493,c494,c495,c496,c497,c498,c499,c500,",
   "c501,c502,c503,c504,c505,c506,c507,c508,c509,c510,c511,c512,c513,c514,c515,c516,c517,c518,",
   "c519,c520,c521,c522,c523,c524,c525,c526,c527,c528,c529,c530,c531,c532,c533,c534,c535,c536,",
   "c537,c538,c539,c540,c541,c542,c543,c544,c545,c546,c547,c548,c549,c550,c551,c552,c553,c554,",
   "c555,c556,c557,c558,c559,c560,c561,c562,c563,c564,c565,c566,c567,c568,c569,c570,c571,c572,",
   "c573,c574,c575,c576,c577,c578,c579,c580,c581,c582,c583,c584,c585,c586,c587,c588,c589,c590,",
   "c591,c592,c593,c594,c595,c596,c597,c598,c599,c600,c601,c602,c603,c604,c605,c606,c607,c608,",
   "c609,c610,c611,c612,c613,c614,c615,c616,c617,c618,c619,c620,c621,c622,c623,c624,c625,c626,",
   "c627,c628,c629,c630,c631,c632,c633,c634,c635,c636,c637,c638,c639,c640,c641,c642,c643,c644,",
   "c645,c646,c647,c648,c649,c650,c651,c652,c653,c654,c655,c656,c657,c658,c659,c660,c661,c662,",
   "c663,c664,c665,c666,c667,c668,c669,c670,c671,c672,c673,c674,c675,c676,c677,c678,c679,c680,",
   "c681,c682,c683,c684,c685,c686,c687,c688,c689,c690,c691,c692,c693,c694,c695,c696,c697,c698,",
   "c699,c700,c701,c702,c703,c704,c705,c706,c707,c708,c709,c710,c711,c712,c713,c714,c715,c716,",
   "c717,c718,c719,c720,c721,c722,c723,c724,c725,c726,c727,c728,c729,c730,c731,c732,c733,c734,",
   "c735,c736,c737,c738,c739,c740,c741,c742,c743,c744,c745,c746,c747,c748,c749,c750,c751,c752,",
   "c753,c754,c755,c756,c757,c758,c759,c760,c761,c762,c763,c764,c765,c766,c767,c768,",
   "aKHITAN SMALL SCRIPT CHARACTER-18B00,e18B01,e18B02,e18B03,e18B04,e18B05,e18B06,e18B07,e18B08,",
   "e18B09,e18B0A,e18B0B,e18B0C,e18B0D,e18B0E,e18B0F,e18B10,e18B11,e18B12,e18B13,e18B14,e18B15,",
   "e18B16,e18B17,e18B18,e18B19,e18B1A,e18B1B,e18B1C,e18B1D,e18B1E,e18B1F,e18B20,e18B21,e18B22,",
   "e18B23,e18B24,e18B25,e18B26,e18B27,e18B28,e18B29,e18B2A,e18B2B,e18B2C,e18B2D,e18B2E,e18B2F,",
   "e18B30,e18B31,e18B32,e18B33,e18B34,e18B35,e18B36,e18B37,e18B38,e18B39,e18B3A,e18B3B,e18B3C,",
   "e18B3D,e18B3E,e18B3F,e18B40,e18B41,e18B42,e18B43,e18B44,e18B45,e18B46,e18B47,e18B48,e18B49,",
   "e18B4A,e18B4B,e18B4C,e18B4D,e18B4E,e18B4F,e18B50,e18B51,e18B52,e18B53,e18B54,e18B55,e18B56,",
   "e18B57,e18B58,e18B59,e18B5A,e18B5B,e18B5C,e18B5D,e18B5E,e18B5F,e18B60,e18B61,e18B62,e18B63,",
   "e18B64,e18B65,e18B66,e18B67,e18B68,e18B69,e18B6A,e18B6B,e18B6C,e18B6D,e18B6E,e18B6F,e18B70,",
   "e18B71,e18B72,e18B73,e18B74,e18B75,e18B76,e18B77,e18B78,e18B79,e18B7A,e18B7B,e18B7C,e18B7D,",
   "e18B7E,e18B7F,e18B80,e18B81,e18B82,e18B83,e18B84,e18B85,e18B86,e18B87,e18B88,e18B89,e18B8A,",
   "e18B8B,e18B8C,e18B8D,e18B8E,e18B8F,e18B90,e18B91,e18B92,e18B93,e18B94,e18B95,e18B96,e18B97,",
   "e18B98,e18B99,e18B9A,e18B9B,e18B9C,e18B9D,e18B9E,e18B9F,e18BA0,e18BA1,e18BA2,e18BA3,e18BA4,",
   "e18BA5,e18BA6,e18BA7,e18BA8,e18BA9,e18BAA,e18BAB,e18BAC,e18BAD,e18BAE,e18BAF,e18BB0,e18BB1,",
   "e18BB2,e18BB3,e18BB4,e18BB5,e18BB6,e18BB7,e18BB8,e18BB9,e18BBA,e18BBB,e18BBC,e18BBD,e18BBE,",
   "e18BBF,e18BC0,e18BC1,e18BC2,e18BC3,e18BC4,e18BC5,e18BC6,e18BC7,e18BC8,e18BC9,e18BCA,e18BCB,",
   "e18BCC,e18BCD,e18BCE,e18BCF,e18BD0,e18BD1,e18BD2,e18BD3,e18BD4,e18BD5,e18BD6,e18BD7,e18BD8,",
   "e18BD9,e18BDA,e18BDB,e18BDC,e18BDD,e18BDE,e18BDF,e18BE0,e18BE1,e18BE2,e18BE3,e18BE4,e18BE5,",
   "e18BE6,e18BE7,e18BE8,e18BE9,e18BEA,e18BEB,e18BEC,e18BED,e18BEE,e18BEF,e18BF0,e18BF1,e18BF2,",
   "e18BF3,e18BF4,e18BF5,e18BF6,e18BF7,e18BF8,e18BF9,e18BFA,e18BFB,e18BFC,e18BFD,e18BFE,e18BFF,",
   "e18C00,e18C01,e18C02,e18C03,e18C04,e18C05,e18C06,e18C07,e18C08,e18C09,e18C0A,e18C0B,e18C0C,",
   "e18C0D,e18C0E,e18C0F,e18C10,e18C11,e18C12,e18C13,e18C14,e18C15,e18C16,e18C17,e18C18,e18C19,",
   "e18C1A,e18C1B,e18C1C,e18C1D,e18C1E,e18C1F,e18C20,e18C21,e18C22,e18C23,e18C24,e18C25,e18C26,",
   "e18C27,e18C28,e18C29,e18C2A,e18C2B,e18C2C,e18C2D,e18C2E,e18C2F,e18C30,e18C31,e18C32,e18C33,",
   "e18C34,e18C35,e18C36,e18C37,e18C38,e18C39,e18C3A,e18C3B,e18C3C,e18C3D,e18C3E,e18C3F,e18C40,",
   "e18C41,e18C42,e18C43,e18C44,e18C45,e18C46,e18C47,e18C48,e18C49,e18C4A,e18C4B,e18C4C,e18C4D,",
   "e18C4E,e18C4F,e18C50,e18C51,e18C52,e18C53,e18C54,e18C55,e18C56,e18C57,e18C58,e18C59,e18C5A,",
   "e18C5B,e18C5C,e18C5D,e18C5E,e18C5F,e18C60,e18C61,e18C62,e18C63,e18C64,e18C65,e18C66,e18C67,",
   "e18C68,e18C69,e18C6A,e18C6B,e18C6C,e18C6D,e18C6E,e18C6F,e18C70,e18C71,e18C72,e18C73,e18C74,",
   "e18C75,e18C76,e18C77,e18C78,e18C79,e18C7A,e18C7B,e18C7C,e18C7D,e18C7E,e18C7F,e18C80,e18C81,",
   "e18C82,e18C83,e18C84,e18C85,e18C86,e18C87,e18C88,e18C89,e18C8A,e18C8B,e18C8C,e18C8D,e18C8E,",
   "e18C8F,e18C90,e18C91,e18C92,e18C93,e18C94,e18C95,e18C96,e18C97,e18C98,e18C99,e18C9A,e18C9B,",
   "e18C9C,e18C9D,e18C9E,e18C9F,e18CA0,e18CA1,e18CA2,e18CA3,e18CA4,e18CA5,e18CA6,e18CA7,e18CA8,",
   "e18CA9,e18CAA,e18CAB,e18CAC,e18CAD,e18CAE,e18CAF,e18CB0,e18CB1,e18CB2,e18CB3,e18CB4,e18CB5,",
   "e18CB6,e18CB7,e18CB8,e18CB9,e18CBA,e18CBB,e18CBC,e18CBD,e18CBE,e18CBF,e18CC0,e18CC1,e18CC2,",
   "e18CC3,e18CC4,e18CC5,e18CC6,e18CC7,e18CC8,e18CC9,e18CCA,e18CCB,e18CCC,e18CCD,e18CCE,e18CCF,",
   "e18CD0,e18CD1,e18CD2,e18CD3,e18CD4,e18CD5,231BaKATAKANA LETTER MINNAN TONE-2,e3,e4,e5,2e7,e8,",
   "dNASALIZED TONE-1,f2,f3,f4,f5,2f7,f8,2cARCHAIC E,aHIRAGANA LETTER ARCHAIC YE,",
   "0aHENTAIGANA LETTER E-1,cbA-,d2,d3,dWO,cI-1,d2,d3,d4,cU-1,d2,d3,d4,d5,cE-2,d3,d4,d5,d6,cO-1,",
   "d2,d3,cKA-1,d2,d3,d4,d5,d6,d7,d8,d9,d10,d11,dKE,cKI-1,d2,d3,d4,d5,d6,d7,d8,cKU-1,d2,d3,d4,d5,",
   "d6,d7,cKE-1,d2,d3,d4,d5,d6,cKO-1,d2,d3,dKI,cSA-1,d2,d3,d4,d5,d6,d7,d8,cSI-1,d2,d3,d4,d5,d6,",
   "cSU-1,d2,d3,d4,d5,d6,d7,d8,cSE-1,d2,d3,d4,d5,cSO-1,d2,d3,d4,d5,d6,d7,cTA-1,d2,d3,d4,cTI-1,d2,",
   "d3,d4,d5,d6,d7,cTU-1,d2,d3,d4,dTO,cTE-1,d2,d3,d4,d5,d6,d7,d8,d9,cTO-1,d2,d3,d4,d5,d6,dRA,",
   "cNA-1,d2,d3,d4,d5,d6,d7,d8,d9,cNI-1,d2,d3,d4,d5,d6,d7,dTE,cNU-1,d2,d3,cNE-1,d2,d3,d4,d5,d6,",
   "dKO,cNO-1,d2,d3,d4,d5,cHA-1,d2,d3,d4,d5,d6,d7,d8,d9,d10,d11,cHI-1,d2,d3,d4,d5,d6,d7,cHU-1,d2,",
   "d3,cHE-1,d2,d3,d4,d5,d6,d7,cHO-1,d2,d3,d4,d5,d6,d7,d8,cMA-1,d2,d3,d4,d5,d6,d7,cMI-1,d2,d3,d4,",
   "d5,d6,d7,cMU-1,d2,d3,d4,cME-1,d2,dMA,cMO-1,d2,d3,d4,d5,d6,cYA-1,d2,d3,d4,d5,dYO,cYU-1,d2,d3,",
   "d4,cYO-1,d2,d3,d4,d5,d6,cRA-1,d2,d3,d4,cRI-1,d2,d3,d4,d5,d6,d7,cRU-1,d2,d3,d4,d5,d6,cRE-1,d2,",
   "d3,d4,cRO-1,d2,d3,d4,d5,d6,cWA-1,d2,d3,d4,d5,cWI-1,d2,d3,d4,d5,cWE-1,d2,d3,d4,cWO-1,d2,d3,d4,",
   "d5,d6,d7,cN-MU-MO-1,f2,aHIRAGANA LETTER ARCHAIC WU,aKATAKANA LETTER ARCHAIC YI,dYE,dWU,",
   "2EaHIRAGANA LETTER SMALL WI,dWE,dWO,12aKATAKANA LETTER SMALL WI,dWE,dWO,dN,",
   "9aNUSHU CHARACTER-1B170,c1B171,c1B172,c1B173,c1B174,c1B175,c1B176,c1B177,c1B178,c1B179,c1B17A,",
   "c1B17B,c1B17C,c1B17D,c1B17E,c1B17F,c1B180,c1B181,c1B182,c1B183,c1B184,c1B185,c1B186,c1B187,",
   "c1B188,c1B189,c1B18A,c1B18B,c1B18C,c1B18D,c1B18E,c1B18F,c1B190,c1B191,c1B192,c1B193,c1B194,",
   "c1B195,c1B196,c1B197,c1B198,c1B199,c1B19A,c1B19B,c1B19C,c1B19D,c1B19E,c1B19F,c1B1A0,c1B1A1,",
   "c1B1A2,c1B1A3,c1B1A4,c1B1A5,c1B1A6,c1B1A7,c1B1A8,c1B1A9,c1B1AA,c1B1AB,c1B1AC,c1B1AD,c1B1AE,",
   "c1B1AF,c1B1B0,c1B1B1,c1B1B2,c1B1B3,c1B1B4,c1B1B5,c1B1B6,c1B1B7,c1B1B8,c1B1B9,c1B1BA,c1B1BB,",
   "c1B1BC,c1B1BD,c1B1BE,c1B1BF,c1B1C0,c1B1C1,c1B1C2,c1B1C3,c1B1C4,c1B1C5,c1B1C6,c1B1C7,c1B1C8,",
   "c1B1C9,c1B1CA,c1B1CB,c1B1CC,c1B1CD,c1B1CE,c1B1CF,c1B1D0,c1B1D1,c1B1D2,c1B1D3,c1B1D4,c1B1D5,",
   "c1B1D6,c1B1D7,c1B1D8,c1B1D9,c1B1DA,c1B1DB,c1B1DC,c1B1DD,c1B1DE,c1B1DF,c1B1E0,c1B1E1,c1B1E2,",
   "c1B1E3,c1B1E4,c1B1E5,c1B1E6,c1B1E7,c1B1E8,c1B1E9,c1B1EA,c1B1EB,c1B1EC,c1B1ED,c1B1EE,c1B1EF,",
   "c1B1F0,c1B1F1,c1B1F2,c1B1F3,c1B1F4,c1B1F5,c1B1F6,c1B1F7,c1B1F8,c1B1F9,c1B1FA,c1B1FB,c1B1FC,",
   "c1B1FD,c1B1FE,c1B1FF,c1B200,c1B201,c1B202,c1B203,c1B204,c1B205,c1B206,c1B207,c1B208,c1B209,",
   "c1B20A,c1B20B,c1B20C,c1B20D,c1B20E,c1B20F,c1B210,c1B211,c1B212,c1B213,c1B214,c1B215,c1B216,",
   "c1B217,c1B218,c1B219,c1B21A,c1B21B,c1B21C,c1B21D,c1B21E,c1B21F,c1B220,c1B221,c1B222,c1B223,",
   "c1B224,c1B225,c1B226,c1B227,c1B228,c1B229,c1B22A,c1B22B,c1B22C,c1B22D,c1B22E,c1B22F,c1B230,",
   "c1B231,c1B232,c1B233,c1B234,c1B235,c1B236,c1B237,c1B238,c1B239,c1B23A,c1B23B,c1B23C,c1B23D,",
   "c1B23E,c1B23F,c1B240,c1B241,c1B242,c1B243,c1B244,c1B245,c1B246,c1B247,c1B248,c1B249,c1B24A,",
   "c1B24B,c1B24C,c1B24D,c1B24E,c1B24F,c1B250,c1B251,c1B252,c1B253,c1B254,c1B255,c1B256,c1B257,",
   "c1B258,c1B259,c1B25A,c1B25B,c1B25C,c1B25D,c1B25E,c1B25F,c1B260,c1B261,c1B262,c1B263,c1B264,",
   "c1B265,c1B266,c1B267,c1B268,c1B269,c1B26A,c1B26B,c1B26C,c1B26D,c1B26E,c1B26F,c1B270,c1B271,",
   "c1B272,c1B273,c1B274,c1B275,c1B276,c1B277,c1B278,c1B279,c1B27A,c1B27B,c1B27C,c1B27D,c1B27E,",
   "c1B27F,c1B280,c1B281,c1B282,c1B283,c1B284,c1B285,c1B286,c1B287,c1B288,c1B289,c1B28A,c1B28B,",
   "c1B28C,c1B28D,c1B28E,c1B28F,c1B290,c1B291,c1B292,c1B293,c1B294,c1B295,c1B296,c1B297,c1B298,",
   "c1B299,c1B29A,c1B29B,c1B29C,c1B29D,c1B29E,c1B29F,c1B2A0,c1B2A1,c1B2A2,c1B2A3,c1B2A4,c1B2A5,",
   "c1B2A6,c1B2A7,c1B2A8,c1B2A9,c1B2AA,c1B2AB,c1B2AC,c1B2AD,c1B2AE,c1B2AF,c1B2B0,c1B2B1,c1B2B2,",
   "c1B2B3,c1B2B4,c1B2B5,c1B2B6,c1B2B7,c1B2B8,c1B2B9,c1B2BA,c1B2BB,c1B2BC,c1B2BD,c1B2BE,c1B2BF,",
   "c1B2C0,c1B2C1,c1B2C2,c1B2C3,c1B2C4,c1B2C5,c1B2C6,c1B2C7,c1B2C8,c1B2C9,c1B2CA,c1B2CB,c1B2CC,",
   "c1B2CD,c1B2CE,c1B2CF,c1B2D0,c1B2D1,c1B2D2,c1B2D3,c1B2D4,c1B2D5,c1B2D6,c1B2D7,c1B2D8,c1B2D9,",
   "c1B2DA,c1B2DB,c1B2DC,c1B2DD,c1B2DE,c1B2DF,c1B2E0,c1B2E1,c1B2E2,c1B2E3,c1B2E4,c1B2E5,c1B2E6,",
   "c1B2E7,c1B2E8,c1B2E9,c1B2EA,c1B2EB,c1B2EC,c1B2ED,c1B2EE,c1B2EF,c1B2F0,c1B2F1,c1B2F2,c1B2F3,",
   "c1B2F4,c1B2F5,c1B2F6,c1B2F7,c1B2F8,c1B2F9,c1B2FA,c1B2FB,905aDUPLOYAN LETTER H,cX,cP,cT,cF,cK,",
   "cL,cB,cD,cV,cG,cR,cP N,cD S,cF N,cK M,cR S,cTH,cSLOAN DH,cb,cKK,cSLOAN J,cHL,cLH,cRH,cM,cN,cJ,",
   "cS,cM N,cN M,cbJ ,cS J,cM WITH DOT,ccN ,ccJ ,eDOTS INSIDE AND ABOVE,cS WITH DOT,eDOT BELOW,",
   "cM S,cbN ,cbJ ,cbS ,cbM N ,cbN M ,ccJ ,cbS J ,cJ S WITH DOT,dN,dN S,cS T,dT R,dP,dP R,cT S,",
   "dbR ,cW,cWH,cW R,cS N,dM,cK R S,ccG ,cS K,dK R,cA,cSLOAN OW,cOA,cO,cAOU,cI,cE,cIE,cSHORT I,",
   "cUI,cEE,cSLOAN EH,cROMANIAN I,cSLOAN EE,cLONG I,cYE,cU,cEU,cXW,cU N,cLONG U,cbROMANIAN ,cUH,",
   "cSLOAN U,cOOH,cOW,cOU,cWA,cWO,cWI,cWEI,cWOW,cNASAL U,dO,dI,dA,cPERNIN AN,dAM,cSLOAN EN,dAN,",
   "dON,cVOCALIC M,6bAFFIX LEFT HORIZONTAL SECANT,ccMID ,ccRIGHT ,cbLOW VERTICAL ,ccMID ,ccHIGH ,",
   "cbATTACHED ,dbLEFT-TO-RIGHT ,dTANGENT,dTAIL,dE HOOK,dbI ,dbTANGENT ,4cHIGH ACUTE,dbTIGHT ,",
   "dGRAVE,dbLONG ,dDOT,dCIRCLE,dLINE,dWAVE,dVERTICAL,8cLOW ACUTE,dbTIGHT ,dGRAVE,dbLONG ,dDOT,",
   "dCIRCLE,dLINE,dWAVE,dVERTICAL,dARROW,3bSIGN O WITH CROSS,bTHICK LETTER SELECTOR,bDOUBLE MARK,",
   "bPUNCTUATION CHINOOK FULL STOP,aSHORTHAND FORMAT LETTER OVERLAP,cbCONTINUING ,cDOWN STEP,",
   "cbUP ,125DaZNAMENNY COMBINING MARK GORAZDO NIZKO S KRYZHEM ON LEFT,df,dcTSATA ,",
   "dcGORAZDO NIZKO ,dd,dcSREDNE ,dcMALO POVYSHE ,dd,dcVYSOKO ,dcMALO POVYSHE S KHOKHLOM ,df,",
   "deVYSOKO ,dGORAZDO NIZKO S KRYZHEM ON RIGHT,df,dcTSATA ,dcGORAZDO NIZKO ,dd,dcSREDNE ,",
   "dcMALO POVYSHE ,dd,dcVYSOKO ,dcMALO POVYSHE S KHOKHLOM ,df,deVYSOKO ,dTSATA S KRYZHEM,",
   "dcMALO POVYSHE ,dSTRANNO MALO POVYSHE,dPOVYSHE S KRYZHEM,eSTRANNO,dVYSOKO S KRYZHEM,",
   "dMALO POVYSHE STRANNO,dGORAZDO VYSOKO,dZELO,dON,dRAVNO,dTIKHAYA,dBORZAYA,dUDARKA,dPODVERTKA,",
   "dLOMKA,dKUPNAYA,dKACHKA,dZEVOK,dSKOBA,dRAZSEKA,dKRYZH ON LEFT,3cTONAL RANGE MARK MRACHNO,",
   "fSVETLO,fTRESVETLO,cMARK ZADERZHKA,dbDEMESTVENNY ,dOTSECHKA,dPODCHASHIE,",
   "dPODCHASHIE WITH VERTICAL STROKE,dCHASHKA,dCHASHKA POLNAYA,dOBLACHKO,dSOROCHYA NOZHKA,dTOCHKA,",
   "dDVOETOCHIE,cATTACHING VERTICAL OMET,cbMARK CURVED ,dKRYZH,cLOWER TONAL RANGE INDICATOR,",
   "bPRIZNAK MODIFIER LEVEL-2,e3,dDIRECTION FLIP,dKRYZH,dROG,AbNEUME KRYUK,cKRYUK TIKHY,cPARAKLIT,",
   "cDVA V CHELNU,cKLYUCH,cZANOZHEK,cSTOPITSA,cSTOPITSA S OCHKOM,cPEREVODKA,",
   "cPEREVODKA NEPOSTOYANNAYA,cSTOPITSA WITH SOROCHYA NOZHKA,cCHELYUSTKA,cPALKA,cZAPYATAYA,",
   "cGOLUBCHIK BORZY,dTIKHY,dMRACHNY,dSVETLY,dTRESVETLY,cVRAKHIYA PROSTAYA,dMRACHNAYA,dSVETLAYA,",
   "dTRESVETLAYA,dKLYUCHEVAYA PROSTAYA,eMRACHNAYA,eSVETLAYA,eTRESVETLAYA,cDOUBLE ZAPYATAYA,",
   "cREVERSED CHELYUSTKA,cDERBITSA,cKHAMILO,cCHASHKA,cPODCHASHIE,cSKAMEYTSA MRACHNAYA,dSVETLAYA,",
   "dTRESVETLAYA,dTIKHAYA,cDEMESTVENNY KLYUCH,cSKAMEYTSA KLYUCHEVAYA SVETLAYA,",
   "dKLYUCHENEPOSTOYANNAYA,dKLYUCHEVAYA TIKHAYA,dDVOECHELNAYA PROSTAYA,eSVETLAYA,eNEPOSTOYANNAYA,",
   "eKLYUCHEVAYA,cSLOZHITIE,cSLOZHITIE S ZAPYATOY,dZAKRYTOE,dS KRYZHEM,cKRYZH,cROG,cFITA,cKOBYLA,",
   "cZMEYTSA,cSTATYA,cSTATYA S ZAPYATOY,eKRYZHEM,ebZAPYATOY I ,eKRYZHEM I ZAPYATOY,dZAKRYTAYA,",
   "dZAKRYTAYA S ZAPYATOY,dS ROGOM,eDVUMYA ZAPYATYMI,eZAPYATOY I PODCHASHIEM,cPOLKULIZMY,",
   "cSTATYA NEPOSTOYANNAYA,cSTRELA PROSTAYA,dMRACHNOTIKHAYA,dKRYZHEVAYA,dPOLUPOVODNAYA,dPOVODNAYA,",
   "dNEPOSTOYANNAYA,dKLYUCHEPOVODNAYA,dKLYUCHENEPOSTOYANNAYA,dTIKHAYA PUTNAYA,dDVOECHELNAYA,",
   "dDVOECHELNOKRYZHEVAYA,dDVOECHELNOPOVODNAYA,dDVOECHELNAYA KLYUCHEVAYA,dbDVOECHELNOPOVODNAYA ,",
   "dGROMNAYA WITH SINGLE ZAPYATAYA,ddGROMOPOVODNAYA ,dGROMNAYA,dGROMOPOVODNAYA,",
   "dGROMOPOVODNAYA WITH DOUBLE ZAPYATAYA,dGROMOKRYZHEVAYA,dGROMOKRYZHEVAYA POVODNAYA,cMECHIK,",
   "cMECHIK POVODNY,dKLYUCHEVOY,dKLYUCHEPOVODNY,dKLYUCHENEPOSTOYANNY,cSTRELA TRYASOGLASNAYA,",
   "dTRYASOPOVODNAYA,dTRYASOSTRELNAYA,cOSOKA,cOSOKA SVETLAYA,dTRESVETLAYA,dKRYUKOVAYA SVETLAYA,",
   "dbKLYUCHEVAYA ,eNEPOSTOYANNAYA,cSTRELA KRYUKOVAYA,dKRYUKOVAYA POVODNAYA,",
   "eGROMNAYA WITH SINGLE ZAPYATAYA,edGROMOPOVODNAYA ,eGROMNAYA,eGROMOPOVODNAYA,",
   "eGROMOPOVODNAYA WITH DOUBLE ZAPYATAYA,eGROMOKRYZHEVAYA,eGROMOKRYZHEVAYA POVODNAYA,eTRYASKA,",
   "cKUFISMA,cOBLAKO,cDUDA,cNEMKA,cPAUK,"]

end EnumCodec.Text
