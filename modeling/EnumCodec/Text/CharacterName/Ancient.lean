/-!
# EnumCodec.Text.CharacterName.Ancient

**The names of the characters from U+10000 to U+13FFF.** The data are those of the Unicode standard,
version 14, with the aliases of characters; names that a rule of the standard gives are left out.
How an entry tells a name from the one before is said where the entries are read.
-/

namespace EnumCodec.Text

/-- The names of the characters from U+10000 to U+13FFF. -/
def ancientNameRows : List String :=
  ["10000aLINEAR B SYLLABLE B008 A,dB038 E,dB028 I,dB061 O,dB010 U,dB001 DA,dB045 DE,dB007 DI,",
   "dB014 DO,dB051 DU,dB057 JA,dB046 JE,2dB036 JO,dB065 JU,dB077 KA,dB044 KE,dB067 KI,dB070 KO,",
   "dB081 KU,dB080 MA,dB013 ME,dB073 MI,dB015 MO,dB023 MU,dB006 NA,dB024 NE,dB030 NI,dB052 NO,",
   "dB055 NU,dB003 PA,dB072 PE,dB039 PI,dB011 PO,dB050 PU,dB016 QA,dB078 QE,dB021 QI,dB032 QO,",
   "2dB060 RA,dB027 RE,dB053 RI,dB002 RO,dB026 RU,dB031 SA,dB009 SE,dB041 SI,dB012 SO,dB058 SU,",
   "dB059 TA,dB004 TE,dB037 TI,dB005 TO,dB069 TU,dB054 WA,dB075 WE,dB040 WI,dB042 WO,2dB017 ZA,",
   "dB074 ZE,2dB020 ZO,dB025 A2,dB043 A3,dB085 AU,dB071 DWE,dB090 DWO,dB048 NWA,dB029 PU2,",
   "dB062 PTE,dB076 RA2,dB033 RA3,dB068 RO2,dB066 TA2,dB087 TWE,dB091 TWO,3cSYMBOL B018,dB019,",
   "dB022,dB034,dB047,dB049,dB056,dB063,dB064,dB079,dB082,dB083,dB086,dB089,23cIDEOGRAM B100 MAN,",
   "dB102 WOMAN,dB104 DEER,dB105 EQUID,dB105F MARE,dB105M STALLION,dB106F EWE,dB106M RAM,",
   "dB107F SHE-GOAT,dbB107M HE-,dB108F SOW,dB108M BOAR,dB109F COW,dB109M BULL,dB120 WHEAT,",
   "dB121 BARLEY,dB122 OLIVE,dB123 SPICE,dB125 CYPERUS,cMONOGRAM B127 KAPO,dB128 KANAKO,",
   "cIDEOGRAM B130 OIL,dB131 WINE,dB132,cMONOGRAM B133 AREPA,dB135 MERI,cIDEOGRAM B140 BRONZE,",
   "dB141 GOLD,dB142,dB145 WOOL,dB146,dB150,dB151 HORN,dB152,dB153,dB154,cMONOGRAM B156 TURO2,",
   "cIDEOGRAM B157,dB158,dB159 CLOTH,dB160,dB161,dB162 GARMENT,dB163 ARMOUR,dB164,dB165,dB166,",
   "dB167,dB168,dB169,dB170,dB171,dB172,dB173 MONTH,dB174,dB176 TREE,dB177,dB178,dB179,dB180,",
   "dB181,dB182,dB183,dB184,dB185,dB189,dB190,dB191 HELMET,dB220 FOOTSTOOL,dB225 BATHTUB,",
   "dB230 SPEAR,dB231 ARROW,dB232,dB233 SWORD,dB234,dB236,dB240 WHEELED CHARIOT,dbB241 ,",
   "dB242 CHARIOT FRAME,dB243 WHEEL,dB245,dB246,cMONOGRAM B247 DIPTE,cIDEOGRAM B248,dB249,dB251,",
   "dB252,dB253,dB254 DART,dB255,dB256,dB257,dB258,dB259,dVESSEL B155,eB200,eB201,eB202,eB203,",
   "eB204,eB205,eB206,eB207,eB208,eB209,eB210,eB211,eB212,eB213,eB214,eB215,eB216,eB217,eB218,",
   "eB219,eB221,eB222,eB226,eB227,eB228,eB229,eB250,eB305,6aAEGEAN WORD SEPARATOR LINE,dDOT,",
   "bCHECK MARK,5bNUMBER ONE,cTWO,cTHREE,cFOUR,cFIVE,cSIX,cSEVEN,cEIGHT,cNINE,cTEN,cTWENTY,",
   "cTHIRTY,cFORTY,cFIFTY,cSIXTY,cSEVENTY,cEIGHTY,cNINETY,cONE HUNDRED,cbTWO ,cbTHREE ,cbFOUR ,",
   "cbFIVE ,cbSIX ,cbSEVEN ,cbEIGHT ,cbNINE ,cONE THOUSAND,cbTWO ,cbTHREE ,cbFOUR ,cbFIVE ,cbSIX ,",
   "cbSEVEN ,cbEIGHT ,cbNINE ,cbTEN ,cbTWENTY ,cbTHIRTY ,cbFORTY ,cbFIFTY ,cbSIXTY ,cbSEVENTY ,",
   "cbEIGHTY ,cbNINETY ,4bWEIGHT BASE UNIT,cFIRST SUBUNIT,cbSECOND ,cbTHIRD ,cbFOURTH ,",
   "bbDRY MEASURE FIRST ,bdLIQUID ,bbMEASURE SECOND ,cbTHIRD ,aGREEK ACROPHONIC ATTIC ONE QUARTER,",
   "eHALF,eDRACHMA,dFIVE,dFIFTY,dFIVE HUNDRED,eTHOUSAND,dbFIFTY ,dFIVE TALENTS,dbTEN ,dbFIFTY ,",
   "dbONE HUNDRED ,dcFIVE ,dbONE THOUSAND ,dcFIVE ,eSTATERS,dbTEN ,dbFIFTY ,dbONE HUNDRED ,",
   "dcFIVE ,dbONE THOUSAND ,dcTEN ,dcFIFTY ,dTEN MNAS,cHERAEUM ONE PLETHRON,cTHESPIAN ONE,",
   "cbHERMIONIAN ,cEPIDAUREAN TWO,cbTHESPIAN ,cCYRENAIC TWO DRACHMAS,ccEPIDAUREAN ,",
   "cTROEZENIAN FIVE,dTEN,dTEN ALTERNATE FORM,cHERMIONIAN TEN,cbMESSENIAN ,cbTHESPIAN ,dTHIRTY,",
   "cTROEZENIAN FIFTY,dFIFTY ALTERNATE FORM,cHERMIONIAN FIFTY,cbTHESPIAN ,dONE HUNDRED,dbTHREE ,",
   "cbEPIDAUREAN FIVE ,ccTROEZENIAN ,ccTHESPIAN ,ccCARYSTIAN ,ccNAXIAN ,cTHESPIAN ONE THOUSAND,",
   "dbFIVE ,cDELPHIC FIVE MNAS,cbSTRATIAN FIFTY ,bONE HALF SIGN,dSIGN ALTERNATE FORM,",
   "bTWO THIRDS SIGN,bbTHREE QUARTERS ,bbYEAR ,bbTALENT ,bbDRACHMA ,bbOBOL ,bbTWO OBOLS ,bcTHREE ,",
   "bcFOUR ,bcFIVE ,bbMETRETES ,bbKYATHOS BASE ,bbLITRA ,bbOUNKIA ,bbXESTES ,bbARTABE ,bbAROURA ,",
   "bbGRAMMA ,bbTRYBLION BASE ,bbZERO ,bbONE QUARTER ,bbSINUSOID ,bbINDICTION ,abNOMISMA ,",
   "2abROMAN SEXTANS ,bbUNCIA ,bbSEMUNCIA ,bbSEXTULA ,bcDIMIDIA ,bbSILIQUA ,bbDENARIUS ,",
   "bbQUINARIUS ,bbSESTERTIUS ,bbDUPONDIUS ,bbAS ,bbCENTURIAL ,aASCIA SYMBOL,",
   "4aGREEK SYMBOL TAU RHO,30aPHAISTOS DISC SIGN PEDESTRIAN,dPLUMED HEAD,dbTATTOOED ,dCAPTIVE,",
   "dCHILD,dWOMAN,dHELMET,dGAUNTLET,dTIARA,dARROW,dBOW,dSHIELD,dCLUB,dMANACLES,dMATTOCK,dSAW,dLID,",
   "dBOOMERANG,dCARPENTRY PLANE,dDOLIUM,dCOMB,dSLING,dCOLUMN,dBEEHIVE,dSHIP,dHORN,dHIDE,",
   "dBULLS LEG,dCAT,dRAM,dEAGLE,dDOVE,dTUNNY,dBEE,dPLANE TREE,dVINE,dPAPYRUS,dROSETTE,dLILY,",
   "dOX BACK,dFLUTE,dGRATER,dSTRAINER,dSMALL AXE,dWAVY BAND,dCOMBINING OBLIQUE STROKE,",
   "83aLYCIAN LETTER A,cE,cB,cBH,cG,cD,cI,cW,cZ,cTH,cJ,cK,cQ,cL,cM,cN,cMM,cNN,cU,cP,cKK,cR,cS,cT,",
   "cTT,cAN,cEN,cH,cX,4aCARIAN LETTER A,cP2,cD,cL,cUUU,cR,cLD,cA2,cQ,cB,cM,cO,cD2,cT,cSH,cSH2,cS,",
   "cC-18,cU,cNN,cX,cN,cTT2,cP,cSS,cI,cE,cUUUU,cK,cK2,cND,cUU,cG,cG2,cST,cST2,cNG,cII,cC-39,cTT,",
   "cUUU2,cRR,cMB,cMB2,cMB3,cMB4,cLD2,cE2,cUUU3,10aCOPTIC EPACT THOUSANDS MARK,cDIGIT ONE,dTWO,",
   "dTHREE,dFOUR,dFIVE,dSIX,dSEVEN,dEIGHT,dNINE,cNUMBER TEN,dTWENTY,dTHIRTY,dFORTY,dFIFTY,dSIXTY,",
   "dSEVENTY,dEIGHTY,dNINETY,dONE HUNDRED,dbTWO ,dbTHREE ,dbFOUR ,dbFIVE ,dbSIX ,dbSEVEN ,",
   "dbEIGHT ,dbNINE ,5aOLD ITALIC LETTER A,dBE,dKE,dDE,dE,dVE,dZE,dHE,dTHE,dI,dKA,dEL,dEM,dEN,",
   "dESH,dO,dPE,dSHE,dKU,dER,dES,dTE,dU,dEKS,dPHE,dKHE,dEF,dERS,dCHE,dII,dUU,dESS,cNUMERAL ONE,",
   "dFIVE,dTEN,dFIFTY,AcLETTER YE,dNORTHERN TSE,dbSOUTHERN ,aGOTHIC LETTER AHSA,cBAIRKAN,cGIBA,",
   "cDAGS,cAIHVUS,cQAIRTHRA,cIUJA,cHAGL,cTHIUTH,cEIS,cKUSMA,cLAGUS,cMANNA,cNAUTHS,cJER,cURUS,",
   "cPAIRTHRA,cNINETY,cRAIDA,cSAUIL,cTEIWS,cWINJA,cFAIHU,cIGGWS,cHWAIR,cOTHAL,cNINE HUNDRED,",
   "6aOLD PERMIC LETTER AN,dBUR,dGAI,dDOI,dE,dZHOI,dDZHOI,dZATA,dDZITA,dI,dKOKE,dLEI,dMENOE,",
   "dNENOE,dVOOI,dPEEI,dREI,dSII,dTAI,dU,dCHERY,dSHOOI,dSHCHOOI,dYRY,dYERU,dO,dOO,dEF,dHA,dTSIU,",
   "dVER,dYER,dYERI,dYAT,dIE,dYU,dYA,dIA,aCOMBINING OLD PERMIC LETTER AN,eDOI,eZATA,eNENOE,eSII,",
   "6aUGARITIC LETTER ALPA,cBETA,cGAMLA,cKHA,cDELTA,cHO,cWO,cZETA,cHOTA,cTET,cYOD,cKAF,cSHIN,",
   "cLAMDA,cMEM,cDHAL,cNUN,cZU,cSAMKA,cAIN,cPU,cSADE,cQOPA,cRASHA,cTHANNA,cGHAIN,cTO,cI,cU,cSSU,",
   "2bWORD DIVIDER,aOLD PERSIAN SIGN A,dI,dU,dKA,dKU,dGA,dGU,dXA,dCA,dJA,dJI,dTA,dTU,dDA,dDI,dDU,",
   "dTHA,dPA,dBA,dFA,dNA,dNU,dMA,dMI,dMU,dYA,dVA,dVI,dRA,dRU,dLA,dSA,dZA,dSHA,dSSA,dHA,",
   "5dAURAMAZDAA,dAURAMAZDAA-2,dAURAMAZDAAHA,dXSHAAYATHIYA,dDAHYAAUSH,dDAHYAAUSH-2,dBAGA,dBUUMISH,",
   "cWORD DIVIDER,cNUMBER ONE,dTWO,dTEN,dTWENTY,dHUNDRED,2BaDESERET CAPITAL LETTER LONG I,eE,eA,",
   "eAH,eO,eOO,dSHORT I,eE,eA,eAH,eO,eOO,dAY,dOW,dWU,dYEE,dH,dPEE,dBEE,dTEE,dDEE,dCHEE,dJEE,dKAY,",
   "dGAY,dEF,dVEE,dETH,dTHEE,dES,dZEE,dESH,dZHEE,dER,dEL,dEM,dEN,dENG,dOI,dEW,",
   "bSMALL LETTER LONG I,eE,eA,eAH,eO,eOO,dSHORT I,eE,eA,eAH,eO,eOO,dAY,dOW,dWU,dYEE,dH,dPEE,dBEE,",
   "dTEE,dDEE,dCHEE,dJEE,dKAY,dGAY,dEF,dVEE,dETH,dTHEE,dES,dZEE,dESH,dZHEE,dER,dEL,dEM,dEN,dENG,",
   "dOI,dEW,aSHAVIAN LETTER PEEP,cTOT,cKICK,cFEE,cTHIGH,cSO,cSURE,cCHURCH,cYEA,cHUNG,cBIB,cDEAD,",
   "cGAG,cVOW,cTHEY,cZOO,cMEASURE,cJUDGE,cWOE,cHA-HA,cLOLL,cMIME,cIF,cEGG,cASH,cADO,cON,cWOOL,",
   "cOUT,cAH,cROAR,cNUN,cEAT,cAGE,cICE,cUP,cOAK,cOOZE,cOIL,cAWE,cARE,cOR,cAIR,cERR,cARRAY,cEAR,",
   "cIAN,cYEW,aOSMANYA LETTER ALEF,cBA,cTA,cJA,cXA,cKHA,cDEEL,cRA,cSA,cSHIIN,cDHA,cCAYN,cGA,cFA,",
   "cQAAF,cKAAF,cLAAN,cMIIN,cNUUN,cWAW,cHA,cYA,cA,cE,cI,cO,cU,cAA,cEE,cOO,3bDIGIT ZERO,cONE,cTWO,",
   "cTHREE,cFOUR,cFIVE,cSIX,cSEVEN,cEIGHT,cNINE,7aOSAGE CAPITAL LETTER A,dAI,dAIN,dAH,dBRA,dCHA,",
   "dEHCHA,dE,dEIN,dHA,dHYA,dI,dKA,dEHKA,dKYA,dLA,dMA,dNA,dO,dOIN,dPA,dEHPA,dSA,dSHA,dTA,dEHTA,",
   "dTSA,dEHTSA,dTSHA,dDHA,dU,dWA,dKHA,dGHA,dZA,dZHA,5bSMALL LETTER A,dAI,dAIN,dAH,dBRA,dCHA,",
   "dEHCHA,dE,dEIN,dHA,dHYA,dI,dKA,dEHKA,dKYA,dLA,dMA,dNA,dO,dOIN,dPA,dEHPA,dSA,dSHA,dTA,dEHTA,",
   "dTSA,dEHTSA,dTSHA,dDHA,dU,dWA,dKHA,dGHA,dZA,dZHA,5aELBASAN LETTER A,cBE,cCE,cCHE,cDE,cNDE,",
   "cDHE,cEI,cE,cFE,cGE,cGJE,cHE,cI,cJE,cKE,cLE,cLLE,cME,cNE,cNA,cNJE,cO,cPE,cQE,cRE,cRRE,cSE,",
   "cSHE,cTE,cTHE,cU,cVE,cXE,cY,cZE,cZHE,cGHE,cGHAMMA,cKHE,9aCAUCASIAN ALBANIAN LETTER ALT,dBET,",
   "dGIM,dDAT,dEB,dZARL,dEYN,dZHIL,dTAS,dCHA,dYOWD,dZHA,dIRB,dSHA,dLAN,dINYA,dXEYN,dDYAN,dCAR,",
   "dJHOX,dKAR,dLYIT,dHEYT,dQAY,dAOR,dCHOY,dCHI,dCYAY,dMAQ,dQAR,dNOWC,dDZYAY,dSHAK,dJAYN,dON,",
   "dTYAY,dFAM,dDZAY,dCHAT,dPEN,dGHEYS,dRAT,dSEYK,dVEYZ,dTIWR,dSHOY,dIWN,dCYAW,dCAYN,dYAYD,dPIWR,",
   "dKIW,CcCITATION MARK,aVITHKUQI CAPITAL LETTER A,dBBE,dBE,dCE,dCHE,dDE,dDHE,dEI,dE,dFE,dGA,",
   "2dHA,dHHA,dI,dIJE,dJE,dKA,dLA,dLLA,dME,dNE,dNJE,dO,dPE,dQA,dRE,2dSE,dSHE,dTE,dTHE,dU,dVE,dXE,",
   "2dY,dZE,2bSMALL LETTER A,dBBE,dBE,dCE,dCHE,dDE,dDHE,dEI,dE,dFE,dGA,2dHA,dHHA,dI,dIJE,dJE,dKA,",
   "dLA,dLLA,dME,dNE,dNJE,dO,dPE,dQA,dRE,2dSE,dSHE,dTE,dTHE,dU,dVE,dXE,2dY,dZE,",
   "44aLINEAR A SIGN AB001,dAB002,dAB003,dAB004,dAB005,dAB006,dAB007,dAB008,dAB009,dAB010,dAB011,",
   "dAB013,dAB016,dAB017,dAB020,dAB021,dAB021F,dAB021M,dAB022,dAB022F,dAB022M,dAB023,dAB023M,",
   "dAB024,dAB026,dAB027,dAB028,dA028B,dAB029,dAB030,dAB031,dAB034,dAB037,dAB038,dAB039,dAB040,",
   "dAB041,dAB044,dAB045,dAB046,dAB047,dAB048,dAB049,dAB050,dAB051,dAB053,dAB054,dAB055,dAB056,",
   "dAB057,dAB058,dAB059,dAB060,dAB061,dAB065,dAB066,dAB067,dAB069,dAB070,dAB073,dAB074,dAB076,",
   "dAB077,dAB078,dAB079,dAB080,dAB081,dAB082,dAB085,dAB086,dAB087,dA100-102,dAB118,dAB120,dA120B,",
   "dAB122,dAB123,dAB131A,dAB131B,dA131C,dAB164,dAB171,dAB180,dAB188,dAB191,dA301,dA302,dA303,",
   "dA304,dA305,dA306,dA307,dA308,dA309A,dA309B,dA309C,dA310,dA311,dA312,dA313A,dA313B,dA313C,",
   "dA314,dA315,dA316,dA317,dA318,dA319,dA320,dA321,dA322,dA323,dA324,dA325,dA326,dA327,dA328,",
   "dA329,dA330,dA331,dA332,dA333,dA334,dA335,dA336,dA337,dA338,dA339,dA340,dA341,dA342,dA343,",
   "dA344,dA345,dA346,dA347,dA348,dA349,dA350,dA351,dA352,dA353,dA354,dA355,dA356,dA357,dA358,",
   "dA359,dA360,dA361,dA362,dA363,dA364,dA365,dA366,dA367,dA368,dA369,dA370,dA371,dA400-VAS,",
   "dbA401-,dbA402-,dbA403-,dbA404-,dbA405-,dbA406-,dbA407-,dbA408-,dbA409-,dbA410-,dbA411-,",
   "dbA412-,dbA413-,dbA414-,dbA415-,dbA416-,dbA417-,dbA418-,dA501,dA502,dA503,dA504,dA505,dA506,",
   "dA508,dA509,dA510,dA511,dA512,dA513,dA515,dA516,dA520,dA521,dA523,dA524,dA525,dA526,dA527,",
   "dA528,dA529,dA530,dA531,dA532,dA534,dA535,dA536,dA537,dA538,dA539,dA540,dA541,dA542,dA545,",
   "dA547,dA548,dA549,dA550,dA551,dA552,dA553,dA554,dA555,dA556,dA557,dA559,dA563,dA564,dA565,",
   "dA566,dA568,dA569,dA570,dA571,dA572,dA573,dA574,dA575,dA576,dA577,dA578,dA579,dA580,dA581,",
   "dA582,dA583,dA584,dA585,dA586,dA587,dA588,dA589,dA591,dA592,dA594,dA595,dA596,dA598,dA600,",
   "dA601,dA602,dA603,dA604,dA606,dA608,dA609,dA610,dA611,dA612,dA613,dA614,dA615,dA616,dA617,",
   "dA618,dA619,dA620,dA621,dA622,dA623,dA624,dA626,dA627,dA628,dA629,dA634,dA637,dA638,dA640,",
   "dA642,dA643,dA644,dA645,dA646,dA648,dA649,dA651,dA652,dA653,dA654,dA655,dA656,dA657,dA658,",
   "dA659,dA660,dA661,dA662,dA663,dA664,AdA701 A,dA702 B,dA703 D,dA704 E,dA705 F,dA706 H,dA707 J,",
   "dA708 K,dA709 L,dA709-2 L2,e3 L3,e4 L4,e6 L6,dA710 W,dA711 X,dA712 Y,dA713 OMEGA,dA714 ABB,",
   "dA715 BB,dA717 DD,dA726 EYYY,dA732 JE,BdA800,dA801,dA802,dA803,dA804,dA805,dA806,dA807,",
   "19aMODIFIER LETTER SMALL CAPITAL AA,cSUPERSCRIPT TRIANGULAR COLON,dcHALF ,cSMALL AE,",
   "dCAPITAL B,dB WITH HOOK,2dDZ DIGRAPH,eDIGRAPH WITH RETROFLEX HOOK,gCURL,dDEZH DIGRAPH,",
   "dD WITH TAIL,fHOOK,fHOOK AND TAIL,dREVERSED E,dbCLOSED REVERSED OPEN ,dFENG DIGRAPH,",
   "dRAMS HORN,dCAPITAL G,dG WITH HOOK,ddCAPITAL ,dH WITH STROKE,dCAPITAL H,dHENG WITH HOOK,",
   "dbDOTLESS J WITH STROKE AND ,dLS DIGRAPH,dbLZ ,dL WITH BELT,ddCAPITAL ,",
   "dbL WITH RETROFLEX HOOK AND ,dLEZH,dLEZH WITH RETROFLEX HOOK,dTURNED Y,eY WITH BELT,",
   "dO WITH STROKE,dCAPITAL OE,dCLOSED OMEGA,dQ,dTURNED R WITH LONG LEG,hLEG AND RETROFLEX HOOK,",
   "dR WITH TAIL,fFISHHOOK,dCAPITAL R,dTC DIGRAPH WITH CURL,dTS DIGRAPH,",
   "eDIGRAPH WITH RETROFLEX HOOK,dTESH DIGRAPH,dT WITH RETROFLEX HOOK,dbV WITH RIGHT ,2dCAPITAL Y,",
   "cGLOTTAL STOP WITH STROKE,ceREVERSED ,cBILABIAL CLICK,cbDENTAL ,cbLATERAL ,cbALVEOLAR ,",
   "cRETROFLEX CLICK WITH RETROFLEX HOOK,cSMALL S WITH CURL,46aCYPRIOT SYLLABLE A,cE,cI,cO,cU,cJA,",
   "3cJO,2cKA,cKE,cKI,cKO,cKU,cLA,cLE,cLI,cLO,cLU,cMA,cME,cMI,cMO,cMU,cNA,cNE,cNI,cNO,cNU,cPA,cPE,",
   "cPI,cPO,cPU,cRA,cRE,cRI,cRO,cRU,cSA,cSE,cSI,cSO,cSU,cTA,cTE,cTI,cTO,cTU,cWA,cWE,cWI,cWO,2cXA,",
   "cXE,4cZA,3cZO,aIMPERIAL ARAMAIC LETTER ALEPH,dBETH,dGIMEL,dDALETH,dHE,dWAW,dZAYIN,dHETH,dTETH,",
   "dYODH,dKAPH,dLAMEDH,dMEM,dNUN,dSAMEKH,dAYIN,dPE,dSADHE,dQOPH,dRESH,dSHIN,dTAW,2cSECTION SIGN,",
   "cNUMBER ONE,dTWO,dTHREE,dTEN,dTWENTY,dONE HUNDRED,eTHOUSAND,dbTEN ,aPALMYRENE LETTER ALEPH,",
   "cBETH,cGIMEL,cDALETH,cHE,cWAW,cZAYIN,cHETH,cTETH,cYODH,cKAPH,cLAMEDH,cMEM,cFINAL NUN,cb,",
   "cSAMEKH,cAYIN,cPE,cSADHE,cQOPH,cRESH,cSHIN,cTAW,bLEFT-POINTING FLEURON,bcRIGHT-,bNUMBER ONE,",
   "cTWO,cTHREE,cFOUR,cFIVE,cTEN,cTWENTY,aNABATAEAN LETTER FINAL ALEPH,cb,cFINAL BETH,cb,cGIMEL,",
   "cDALETH,cFINAL HE,cb,cWAW,cZAYIN,cHETH,cTETH,cFINAL YODH,cb,cFINAL KAPH,cb,cFINAL LAMEDH,cb,",
   "cFINAL MEM,cb,cFINAL NUN,cb,cSAMEKH,cAYIN,cPE,cSADHE,cQOPH,cRESH,cFINAL SHIN,cb,cTAW,",
   "9bNUMBER ONE,cTWO,cTHREE,cFOUR,bcCRUCIFORM ,bNUMBER FIVE,cTEN,cTWENTY,cONE HUNDRED,",
   "31aHATRAN LETTER ALEPH,cBETH,cGIMEL,cDALETH-RESH,cHE,cWAW,cZAYN,cHETH,cTETH,cYODH,cKAPH,",
   "cLAMEDH,cMEM,cNUN,cSAMEKH,cAYN,cPE,cSADHE,cQOPH,2cSHIN,cTAW,6bNUMBER ONE,cFIVE,cTEN,cTWENTY,",
   "cONE HUNDRED,aPHOENICIAN LETTER ALF,cBET,cGAML,cDELT,cHE,cWAU,cZAI,cHET,cTET,cYOD,cKAF,cLAMD,",
   "cMEM,cNUN,cSEMK,cAIN,cPE,cSADE,cQOF,cROSH,cSHIN,cTAU,bNUMBER ONE,cTEN,cTWENTY,cONE HUNDRED,",
   "cTWO,cTHREE,4bWORD SEPARATOR,aLYDIAN LETTER A,cB,cG,cD,cE,cV,cI,cY,cK,cL,cM,cN,cO,cR,cSS,cT,",
   "cU,cF,cQ,cS,cTT,cAN,cEN,cLY,cNN,cC,6bTRIANGULAR MARK,41aMEROITIC HIEROGLYPHIC LETTER A,dE,dI,",
   "dO,dYA,dWA,dBA,dBA-2,dPA,dMA,dNA,dNA-2,dNE,dNE-2,dRA,dRA-2,dLA,dKHA,dHHA,dSA,dSA-2,dSE,dKA,",
   "dQA,dTA,dTA-2,dTE,dTE-2,dTO,dDA,cSYMBOL VIDJ,dVIDJ-2,bCURSIVE LETTER A,dE,dI,dO,dYA,dWA,dBA,",
   "dPA,dMA,dNA,dNE,dRA,dLA,dKHA,dHHA,dSA,dbARCHAIC ,dSE,dKA,dQA,dTA,dTE,dTO,dDA,",
   "5cFRACTION ELEVEN TWELFTHS,dONE HALF,cLOGOGRAM RMT,dIMN,cNUMBER ONE,dTWO,dTHREE,dFOUR,dFIVE,",
   "dSIX,dSEVEN,dEIGHT,dNINE,dTEN,dTWENTY,dTHIRTY,dFORTY,dFIFTY,dSIXTY,dSEVENTY,3dONE HUNDRED,",
   "dbTWO ,dbTHREE ,dbFOUR ,dbFIVE ,dbSIX ,dbSEVEN ,dbEIGHT ,dbNINE ,dONE THOUSAND,dbTWO ,",
   "dbTHREE ,dbFOUR ,dbFIVE ,dbSIX ,dbSEVEN ,dbEIGHT ,dbNINE ,dbTEN ,dbTWENTY ,dbTHIRTY ,dbFORTY ,",
   "dbFIFTY ,dbSIXTY ,dbSEVENTY ,dbEIGHTY ,dbNINETY ,dbONE HUNDRED ,dcTWO ,dcTHREE ,dcFOUR ,",
   "dcFIVE ,dcSIX ,dcSEVEN ,dcEIGHT ,dcNINE ,cFRACTION ONE TWELFTH,dTWO TWELFTHS,dbTHREE ,dbFOUR ,",
   "dbFIVE ,dbSIX ,dbSEVEN ,dbEIGHT ,dbNINE ,dbTEN ,aKHAROSHTHI LETTER A,bVOWEL SIGN I,dU,",
   "dVOCALIC R,2dE,dO,6cLENGTH MARK,bSIGN DOUBLE RING BELOW,cANUSVARA,cVISARGA,bLETTER KA,cKHA,",
   "cGA,cGHA,2cCA,cCHA,cJA,2cNYA,cTTA,cTTHA,cDDA,cDDHA,cNNA,cTA,cTHA,cDA,cDHA,cNA,cPA,cPHA,cBA,",
   "cBHA,cMA,cYA,cRA,cLA,cVA,cSHA,cSSA,cSA,cZA,cHA,cKKA,cTTTHA,cTTTA,cVHA,3bSIGN BAR ABOVE,cCAUDA,",
   "cDOT BELOW,5bVIRAMA,bDIGIT ONE,cTWO,cTHREE,cFOUR,bNUMBER TEN,cTWENTY,cONE HUNDRED,dTHOUSAND,",
   "bFRACTION ONE HALF,8bPUNCTUATION DOT,cSMALL CIRCLE,cb,cCRESCENT BAR,cMANGALAM,cLOTUS,cDANDA,",
   "cbDOUBLE ,cLINES,8aOLD SOUTH ARABIAN LETTER HE,eLAMEDH,eHETH,eMEM,eQOPH,eWAW,eSHIN,eRESH,",
   "eBETH,eTAW,eSAT,eKAPH,eNUN,eKHETH,eSADHE,eSAMEKH,eFE,eALEF,eAYN,eDHADHE,eGIMEL,eDALETH,eGHAYN,",
   "eTETH,eZAYN,eDHALETH,eYODH,eTHAW,eTHETH,dNUMBER ONE,eFIFTY,dNUMERIC INDICATOR,",
   "bNORTH ARABIAN LETTER HEH,eLAM,eHAH,eMEEM,eQAF,eWAW,eES-2,eREH,eBEH,eTEH,eES-1,eKAF,eNOON,",
   "eKHAH,eSAD,eES-3,eFEH,eALEF,eAIN,eDAD,eGEEM,eDAL,eGHAIN,eTAH,eZAIN,eTHAL,eYEH,eTHEH,eZAH,",
   "dNUMBER ONE,eTEN,eTWENTY,21aMANICHAEAN LETTER ALEPH,cBETH,cBHETH,cGIMEL,cGHIMEL,cDALETH,cHE,",
   "cWAW,bSIGN UD,bLETTER ZAYIN,cZHAYIN,cJAYIN,cJHAYIN,cHETH,cTETH,cYODH,cKAPH,cXAPH,cKHAPH,",
   "cLAMEDH,cDHAMEDH,cTHAMEDH,cMEM,cNUN,cSAMEKH,cAYIN,cAAYIN,cPE,cFE,cSADHE,cQOPH,cXOPH,cQHOPH,",
   "cRESH,cSHIN,cSSHIN,cTAW,bABBREVIATION MARK ABOVE,dBELOW,5bNUMBER ONE,cFIVE,cTEN,cTWENTY,",
   "cONE HUNDRED,bPUNCTUATION STAR,cFLEURON,cDOUBLE DOT WITHIN DOT,cd,cb,cTWO DOTS,cLINE FILLER,",
   "AaAVESTAN LETTER A,cAA,cAO,cAAO,cAN,cAAN,cAE,cAEE,cE,cEE,cO,cOO,cI,cII,cU,cUU,cKE,cXE,cXYE,",
   "cXVE,cGE,cGGE,cGHE,cCE,cJE,cTE,cTHE,cDE,cDHE,cTTE,cPE,cFE,cBE,cBHE,cNGE,cNGYE,cNGVE,cNE,cNYE,",
   "cNNE,cME,cHME,cYYE,cYE,cVE,cRE,cLE,cSE,cZE,cSHE,cZHE,cSHYE,cSSHE,cHE,4bABBREVIATION MARK,",
   "aTINY TWO DOTS OVER ONE DOT PUNCTUATION,agSMALL ,agLARGE ,bbONE DOT OVER TWO DOTS ,",
   "bbTWO RINGS OVER ONE RING ,bbONE RING OVER TWO RINGS ,aINSCRIPTIONAL PARTHIAN LETTER ALEPH,",
   "dBETH,dGIMEL,dDALETH,dHE,dWAW,dZAYIN,dHETH,dTETH,dYODH,dKAPH,dLAMEDH,dMEM,dNUN,dSAMEKH,dAYIN,",
   "dPE,dSADHE,dQOPH,dRESH,dSHIN,dTAW,3cNUMBER ONE,dTWO,dTHREE,dFOUR,dTEN,dTWENTY,dONE HUNDRED,",
   "eTHOUSAND,bPAHLAVI LETTER ALEPH,dBETH,dGIMEL,dDALETH,dHE,dWAW-AYIN-RESH,dZAYIN,dHETH,dTETH,",
   "dYODH,dKAPH,dLAMEDH,dMEM-QOPH,dNUN,dSAMEKH,dPE,dSADHE,dSHIN,dTAW,6cNUMBER ONE,dTWO,dTHREE,",
   "dFOUR,dTEN,dTWENTY,dONE HUNDRED,eTHOUSAND,aPSALTER PAHLAVI LETTER ALEPH,dBETH,dGIMEL,dDALETH,",
   "dHE,dWAW-AYIN-RESH,dZAYIN,dHETH,dYODH,dKAPH,dLAMEDH,dMEM-QOPH,dNUN,dSAMEKH,dPE,dSADHE,dSHIN,",
   "dTAW,8cSECTION MARK,ccTURNED ,cFOUR DOTS WITH CROSS,fDOT,DcNUMBER ONE,dTWO,dTHREE,dFOUR,dTEN,",
   "dTWENTY,dONE HUNDRED,51aOLD TURKIC LETTER ORKHON A,dbYENISEI ,eAE,dORKHON I,dbYENISEI ,eE,",
   "dORKHON O,eOE,dbYENISEI ,dORKHON AB,dbYENISEI ,dORKHON AEB,dbYENISEI ,dORKHON AG,dbYENISEI ,",
   "dORKHON AEG,dbYENISEI ,dORKHON AD,dbYENISEI ,dORKHON AED,eEZ,dbYENISEI ,dORKHON AY,dbYENISEI ,",
   "dORKHON AEY,dbYENISEI ,dORKHON AEK,dbYENISEI ,dORKHON OEK,dbYENISEI ,dORKHON AL,dbYENISEI ,",
   "dORKHON AEL,eELT,eEM,eAN,eAEN,dbYENISEI ,dORKHON ENT,dbYENISEI ,dORKHON ENC,dbYENISEI ,",
   "dORKHON ENY,dbYENISEI ,eANG,dORKHON ENG,dYENISEI AENG,dORKHON EP,eOP,eIC,eEC,dbYENISEI ,",
   "dORKHON AQ,dbYENISEI ,dORKHON IQ,dbYENISEI ,dORKHON OQ,dbYENISEI ,dORKHON AR,dbYENISEI ,",
   "dORKHON AER,eAS,eAES,eASH,dbYENISEI ,dORKHON ESH,dbYENISEI ,dORKHON AT,dbYENISEI ,dORKHON AET,",
   "dbYENISEI ,dORKHON OT,eBASH,38bHUNGARIAN CAPITAL LETTER A,eAA,eEB,eAMB,eEC,eENC,eECS,eED,eAND,",
   "eE,ebCLOSE ,eEE,eEF,eEG,eEGY,eEH,eI,eII,eEJ,eEK,eAK,eUNK,eEL,eELY,eEM,eEN,eENY,eO,eOO,",
   "eNIKOLSBURG OE,ebRUDIMENTA ,eOEE,eEP,eEMP,eER,ebSHORT ,eES,eESZ,eET,eENT,eETY,eECH,eU,eUU,",
   "eNIKOLSBURG UE,ebRUDIMENTA ,eEV,eEZ,eEZS,eENT-SHAPED SIGN,eUS,EcSMALL LETTER A,eAA,eEB,eAMB,",
   "eEC,eENC,eECS,eED,eAND,eE,ebCLOSE ,eEE,eEF,eEG,eEGY,eEH,eI,eII,eEJ,eEK,eAK,eUNK,eEL,eELY,eEM,",
   "eEN,eENY,eO,eOO,eNIKOLSBURG OE,ebRUDIMENTA ,eOEE,eEP,eEMP,eER,ebSHORT ,eES,eESZ,eET,eENT,eETY,",
   "eECH,eU,eUU,eNIKOLSBURG UE,ebRUDIMENTA ,eEV,eEZ,eEZS,eENT-SHAPED SIGN,eUS,8cNUMBER ONE,dFIVE,",
   "dTEN,dFIFTY,dONE HUNDRED,eTHOUSAND,aHANIFI ROHINGYA LETTER A,dBA,dPA,dTA,dTTA,dJA,dCA,dHA,",
   "dKHA,dFA,dDA,dDDA,dRA,dRRA,dZA,dSA,dSHA,dKA,dGA,dLA,dMA,dNA,dWA,dbKINNA ,dYA,dbKINNA ,dNGA,",
   "dNYA,dVA,cVOWEL A,dI,dU,dE,dO,cMARK SAKIN,dNA KHONNA,cSIGN HARBAHAY,dTAHALA,dTANA,dTASSI,",
   "9cDIGIT ZERO,dONE,dTWO,dTHREE,dFOUR,dFIVE,dSIX,dSEVEN,dEIGHT,dNINE,127aRUMI DIGIT ONE,cTWO,",
   "cTHREE,cFOUR,cFIVE,cSIX,cSEVEN,cEIGHT,cNINE,bNUMBER TEN,cTWENTY,cTHIRTY,cFORTY,cFIFTY,cSIXTY,",
   "cSEVENTY,cEIGHTY,cNINETY,cONE HUNDRED,cbTWO ,cbTHREE ,cbFOUR ,cbFIVE ,cbSIX ,cbSEVEN ,",
   "cbEIGHT ,cbNINE ,bFRACTION ONE HALF,dQUARTER,dTHIRD,cTWO THIRDS,2aYEZIDI LETTER ELIF,cBE,cPE,",
   "cPHE,cTHE,cSE,cCIM,cCHIM,cCHHIM,cHHA,cXA,cDAL,cZAL,cRA,cRHA,cZA,cJA,cSIN,cSHIN,cSAD,cDAD,cTA,",
   "cZE,cEYN,cXHEYN,cFA,cVA,cVA ALTERNATE FORM,cQAF,cKAF,cKHAF,cGAF,cLAM,cMIM,cNUN,cUM,cWAW,cOW,",
   "cEW,cHAY,cYOT,cET,2bCOMBINING HAMZA MARK,cbMADDA ,bbHYPHENATION ,3bLETTER LAM WITH DOT ABOVE,",
   "cbYOT WITH CIRCUMFLEX ,4FaOLD SOGDIAN LETTER ALEPH,dbFINAL ,dBETH,dbFINAL ,dGIMEL,dHE,",
   "dbFINAL ,dWAW,dZAYIN,dHETH,dYODH,dKAPH,dLAMEDH,dMEM,dNUN,dbFINAL ,eNUN WITH VERTICAL TAIL,",
   "dSAMEKH,dAYIN,dbALTERNATE ,dPE,dSADHE,dbFINAL ,eSADHE WITH VERTICAL TAIL,dRESH-AYIN-DALETH,",
   "dSHIN,dTAW,dbFINAL ,eTAW WITH VERTICAL TAIL,cNUMBER ONE,dTWO,dTHREE,dFOUR,dFIVE,dTEN,dTWENTY,",
   "dTHIRTY,dONE HUNDRED,cFRACTION ONE HALF,cLIGATURE AYIN-DALETH,9aSOGDIAN LETTER ALEPH,cBETH,",
   "cGIMEL,cHE,cWAW,cZAYIN,cHETH,cYODH,cKAPH,cLAMEDH,cMEM,cNUN,cSAMEKH,cAYIN,cPE,cSADHE,",
   "cRESH-AYIN,cSHIN,cTAW,cFETH,cLESH,bINDEPENDENT SHIN,bCOMBINING DOT BELOW,cbTWO DOTS ,",
   "cDOT ABOVE,cbTWO DOTS ,cbCURVE ,dBELOW,cHOOK ABOVE,dBELOW,ccLONG ,cbRESH ,cbSTROKE ,",
   "bNUMBER ONE,cTEN,cTWENTY,cONE HUNDRED,bPUNCTUATION TWO VERTICAL BARS,eBARS WITH DOTS,",
   "cCIRCLE WITH DOT,cTWO CIRCLES WITH DOTS,cHALF CIRCLE WITH DOT,17aOLD UYGHUR LETTER ALEPH,",
   "dBETH,dGIMEL-HETH,dWAW,dZAYIN,dFINAL HETH,dYODH,dKAPH,dLAMEDH,dMEM,dNUN,dSAMEKH,dPE,dSADHE,",
   "dRESH,dSHIN,dTAW,dLESH,cCOMBINING DOT ABOVE,eBELOW,dTWO DOTS ABOVE,fBELOW,cPUNCTUATION BAR,",
   "dTWO BARS,eDOTS,dbFOUR ,27aCHORASMIAN LETTER ALEPH,cbSMALL ,cBETH,cGIMEL,cDALETH,cHE,cWAW,",
   "cbCURLED ,cZAYIN,cHETH,cYODH,cKAPH,cLAMEDH,cMEM,cNUN,cSAMEKH,cAYIN,cPE,cRESH,cSHIN,cTAW,",
   "bNUMBER ONE,cTWO,cTHREE,cFOUR,cTEN,cTWENTY,cONE HUNDRED,15aELYMAIC LETTER ALEPH,cBETH,cGIMEL,",
   "cDALETH,cHE,cWAW,cZAYIN,cHETH,cTETH,cYODH,cKAPH,cLAMEDH,cMEM,cNUN,cSAMEKH,cAYIN,cPE,cSADHE,",
   "cQOPH,cRESH,cSHIN,cTAW,bLIGATURE ZAYIN-YODH,AaBRAHMI SIGN CANDRABINDU,cANUSVARA,cVISARGA,",
   "cJIHVAMULIYA,cUPADHMANIYA,bLETTER A,cAA,cI,cII,cU,cUU,cVOCALIC R,dRR,dL,dLL,cE,cAI,cO,cAU,cKA,",
   "cKHA,cGA,cGHA,cNGA,cCA,cCHA,cJA,cJHA,cNYA,cTTA,cTTHA,cDDA,cDDHA,cNNA,cTA,cTHA,cDA,cDHA,cNA,",
   "cPA,cPHA,cBA,cBHA,cMA,cYA,cRA,cLA,cVA,cSHA,cSSA,cSA,cHA,cLLA,cOLD TAMIL LLLA,eRRA,eNNNA,",
   "bVOWEL SIGN AA,dbBHATTIPROLU ,dI,dII,dU,dUU,dVOCALIC R,eRR,eL,eLL,dE,dAI,dO,dAU,bVIRAMA,",
   "bDANDA,bbDOUBLE ,bPUNCTUATION DOT,cbDOUBLE ,cLINE,cCRESCENT BAR,cLOTUS,5bNUMBER ONE,cTWO,",
   "cTHREE,cFOUR,cFIVE,cSIX,cSEVEN,cEIGHT,cNINE,cTEN,cTWENTY,cTHIRTY,cFORTY,cFIFTY,cSIXTY,",
   "cSEVENTY,cEIGHTY,cNINETY,cONE HUNDRED,dTHOUSAND,bDIGIT ZERO,cONE,cTWO,cTHREE,cFOUR,cFIVE,cSIX,",
   "cSEVEN,cEIGHT,cNINE,bSIGN OLD TAMIL VIRAMA,bLETTER OLD TAMIL SHORT E,fO,",
   "bVOWEL SIGN OLD TAMIL SHORT E,gO,bLETTER OLD TAMIL LLA,AbNUMBER JOINER,",
   "aKAITHI SIGN CANDRABINDU,cANUSVARA,cVISARGA,bLETTER A,cAA,cI,cII,cU,cUU,cE,cAI,cO,cAU,cKA,",
   "cKHA,cGA,cGHA,cNGA,cCA,cCHA,cJA,cJHA,cNYA,cTTA,cTTHA,cDDA,cDDDHA,cDDHA,cRHA,cNNA,cTA,cTHA,cDA,",
   "cDHA,cNA,cPA,cPHA,cBA,cBHA,cMA,cYA,cRA,cLA,cVA,cSHA,cSSA,cSA,cHA,bVOWEL SIGN AA,dI,dII,dU,dUU,",
   "dE,dAI,dO,dAU,bSIGN VIRAMA,cNUKTA,bABBREVIATION SIGN,bbENUMERATION ,bbNUMBER ,bSECTION MARK,",
   "bcDOUBLE ,bDANDA,bbDOUBLE ,bVOWEL SIGN VOCALIC R,BbNUMBER SIGN ABOVE,",
   "3aSORA SOMPENG LETTER SAH,dTAH,dBAH,dCAH,dDAH,dGAH,dMAH,dNGAH,dLAH,dNAH,dVAH,dPAH,dYAH,dRAH,",
   "dHAH,dKAH,dJAH,dNYAH,dAH,dEEH,dIH,dUH,dOH,dEH,dMAE,8cDIGIT ZERO,dONE,dTWO,dTHREE,dFOUR,dFIVE,",
   "dSIX,dSEVEN,dEIGHT,dNINE,7aCHAKMA SIGN CANDRABINDU,cANUSVARA,cVISARGA,bLETTER AA,cI,cU,cE,",
   "cKAA,cKHAA,cGAA,cGHAA,cNGAA,cCAA,cCHAA,cJAA,cJHAA,cNYAA,cTTAA,cTTHAA,cDDAA,cDDHAA,cNNAA,cTAA,",
   "cTHAA,cDAA,cDHAA,cNAA,cPAA,cPHAA,cBAA,cBHAA,cMAA,cYYAA,cYAA,cRAA,cLAA,cWAA,cSAA,cHAA,",
   "bVOWEL SIGN A,dI,dII,dU,dUU,dE,dAI,dO,dAU,dOI,bO MARK,bbAU ,bVIRAMA,bMAAYYAA,2bDIGIT ZERO,",
   "cONE,cTWO,cTHREE,cFOUR,cFIVE,cSIX,cSEVEN,cEIGHT,cNINE,bSECTION MARK,bDANDA,bbDOUBLE ,",
   "bQUESTION MARK,bLETTER LHAA,bVOWEL SIGN AA,dEI,bLETTER VAA,9aMAHAJANI LETTER A,cI,cU,cE,cO,",
   "cKA,cKHA,cGA,cGHA,cCA,cCHA,cJA,cJHA,cNYA,cTTA,cTTHA,cDDA,cDDHA,cNNA,cTA,cTHA,cDA,cDHA,cNA,cPA,",
   "cPHA,cBA,cBHA,cMA,cRA,cLA,cVA,cSA,cHA,cRRA,bSIGN NUKTA,bABBREVIATION SIGN,bSECTION MARK,",
   "bLIGATURE SHRI,AaSHARADA SIGN CANDRABINDU,cANUSVARA,cVISARGA,bLETTER A,cAA,cI,cII,cU,cUU,",
   "cVOCALIC R,dRR,dL,dLL,cE,cAI,cO,cAU,cKA,cKHA,cGA,cGHA,cNGA,cCA,cCHA,cJA,cJHA,cNYA,cTTA,cTTHA,",
   "cDDA,cDDHA,cNNA,cTA,cTHA,cDA,cDHA,cNA,cPA,cPHA,cBA,cBHA,cMA,cYA,cRA,cLA,cLLA,cVA,cSHA,cSSA,",
   "cSA,cHA,bVOWEL SIGN AA,dI,dII,dU,dUU,dVOCALIC R,eRR,eL,eLL,dE,dAI,dO,dAU,bSIGN VIRAMA,",
   "cAVAGRAHA,cJIHVAMULIYA,cUPADHMANIYA,bOM,bDANDA,bbDOUBLE ,bABBREVIATION SIGN,bSEPARATOR,",
   "bSANDHI MARK,bSIGN NUKTA,bVOWEL MODIFIER MARK,bbEXTRA SHORT VOWEL ,bbSUTRA ,",
   "bVOWEL SIGN PRISHTHAMATRA E,bSIGN INVERTED CANDRABINDU,bDIGIT ZERO,cONE,cTWO,cTHREE,cFOUR,",
   "cFIVE,cSIX,cSEVEN,cEIGHT,cNINE,bEKAM,bSIGN SIDDHAM,bHEADSTROKE,bCONTINUATION SIGN,",
   "bSECTION MARK-1,d2,2aSINHALA ARCHAIC DIGIT ONE,dTWO,dTHREE,dFOUR,dFIVE,dSIX,dSEVEN,dEIGHT,",
   "dNINE,cNUMBER TEN,dTWENTY,dTHIRTY,dFORTY,dFIFTY,dSIXTY,dSEVENTY,dEIGHTY,dNINETY,dONE HUNDRED,",
   "eTHOUSAND,CaKHOJKI LETTER A,cAA,cI,cU,cE,cAI,cO,cAU,cKA,cKHA,cGA,cGGA,cGHA,cNGA,cCA,cCHA,cJA,",
   "cJJA,2cNYA,cTTA,cTTHA,cDDA,cDDHA,cNNA,cTA,cTHA,cDA,cDDDA,cDHA,cNA,cPA,cPHA,cBA,cBBA,cBHA,cMA,",
   "cYA,cRA,cLA,cVA,cSA,cHA,cLLA,bVOWEL SIGN AA,dI,dII,dU,dE,dAI,dO,dAU,bSIGN ANUSVARA,cVIRAMA,",
   "cNUKTA,cSHADDA,bDANDA,bbDOUBLE ,bWORD SEPARATOR,bSECTION MARK,bcDOUBLE ,bABBREVIATION SIGN,",
   "bSIGN SUKUN,42aMULTANI LETTER A,cI,cU,cE,cKA,cKHA,cGA,2cGHA,2cCA,cCHA,cJA,cJJA,2cNYA,cTTA,",
   "cTTHA,cDDA,cDDDA,cDDHA,cNNA,cTA,cTHA,cDA,cDHA,cNA,cPA,cPHA,cBA,2cBHA,cMA,cYA,cRA,cLA,cVA,cSA,",
   "cHA,cRRA,cRHA,bSECTION MARK,7aKHUDAWADI LETTER A,cAA,cI,cII,cU,cUU,cE,cAI,cO,cAU,cKA,cKHA,cGA,",
   "cGGA,cGHA,cNGA,cCA,cCHA,cJA,cJJA,cJHA,cNYA,cTTA,cTTHA,cDDA,cDDDA,cRRA,cDDHA,cNNA,cTA,cTHA,cDA,",
   "cDHA,cNA,cPA,cPHA,cBA,cBBA,cBHA,cMA,cYA,cRA,cLA,cVA,cSHA,cSA,cHA,bSIGN ANUSVARA,",
   "bVOWEL SIGN AA,dI,dII,dU,dUU,dE,dAI,dO,dAU,bSIGN NUKTA,cVIRAMA,6bDIGIT ZERO,cONE,cTWO,cTHREE,",
   "cFOUR,cFIVE,cSIX,cSEVEN,cEIGHT,cNINE,7aGRANTHA SIGN COMBINING ANUSVARA ABOVE,cCANDRABINDU,",
   "cANUSVARA,cVISARGA,2bLETTER A,cAA,cI,cII,cU,cUU,cVOCALIC R,dL,3cEE,cAI,3cOO,cAU,cKA,cKHA,cGA,",
   "cGHA,cNGA,cCA,cCHA,cJA,cJHA,cNYA,cTTA,cTTHA,cDDA,cDDHA,cNNA,cTA,cTHA,cDA,cDHA,cNA,2cPA,cPHA,",
   "cBA,cBHA,cMA,cYA,cRA,2cLA,cLLA,2cVA,cSHA,cSSA,cSA,cHA,2aCOMBINING BINDU BELOW,",
   "aGRANTHA SIGN NUKTA,cAVAGRAHA,bVOWEL SIGN AA,dI,dII,dU,dUU,dVOCALIC R,eRR,3dEE,dAI,3dOO,dAU,",
   "bSIGN VIRAMA,3bOM,7bAU LENGTH MARK,6bSIGN PLUTA,bLETTER VEDIC ANUSVARA,dbDOUBLE ,cVOCALIC RR,",
   "dLL,bVOWEL SIGN VOCALIC L,eLL,3aCOMBINING GRANTHA DIGIT ZERO,dONE,dTWO,dTHREE,dFOUR,dFIVE,",
   "dSIX,4cLETTER A,dKA,dNA,dVI,dPA,8CaNEWA LETTER A,cAA,cI,cII,cU,cUU,cVOCALIC R,dRR,dL,dLL,cE,",
   "cAI,cO,cAU,cKA,cKHA,cGA,cGHA,cNGA,cNGHA,cCA,cCHA,cJA,cJHA,cNYA,cNYHA,cTTA,cTTHA,cDDA,cDDHA,",
   "cNNA,cTA,cTHA,cDA,cDHA,cNA,cNHA,cPA,cPHA,cBA,cBHA,cMA,cMHA,cYA,cRA,cRHA,cLA,cLHA,cWA,cSHA,",
   "cSSA,cSA,cHA,bVOWEL SIGN AA,dI,dII,dU,dUU,dVOCALIC R,eRR,eL,eLL,dE,dAI,dO,dAU,bSIGN VIRAMA,",
   "cCANDRABINDU,cANUSVARA,cVISARGA,cNUKTA,cAVAGRAHA,cFINAL ANUSVARA,bOM,bSIDDHI,bDANDA,bbDOUBLE ,",
   "bCOMMA,bGAP FILLER,bABBREVIATION SIGN,bDIGIT ZERO,cONE,cTWO,cTHREE,cFOUR,cFIVE,cSIX,cSEVEN,",
   "cEIGHT,cNINE,bDOUBLE COMMA,bPLACEHOLDER MARK,2bINSERTION SIGN,bSANDHI MARK,",
   "bLETTER VEDIC ANUSVARA,bSIGN JIHVAMULIYA,cUPADHMANIYA,1FaTIRHUTA ANJI,bLETTER A,cAA,cI,cII,cU,",
   "cUU,cVOCALIC R,dRR,dL,dLL,cE,cAI,cO,cAU,cKA,cKHA,cGA,cGHA,cNGA,cCA,cCHA,cJA,cJHA,cNYA,cTTA,",
   "cTTHA,cDDA,cDDHA,cNNA,cTA,cTHA,cDA,cDHA,cNA,cPA,cPHA,cBA,cBHA,cMA,cYA,cRA,cLA,cVA,cSHA,cSSA,",
   "cSA,cHA,bVOWEL SIGN AA,dI,dII,dU,dUU,dVOCALIC R,eRR,eL,eLL,dE,dbSHORT ,dAI,dO,dbSHORT ,dAU,",
   "bSIGN CANDRABINDU,cANUSVARA,cVISARGA,cVIRAMA,cNUKTA,cAVAGRAHA,bGVANG,bABBREVIATION SIGN,bOM,",
   "9bDIGIT ZERO,cONE,cTWO,cTHREE,cFOUR,cFIVE,cSIX,cSEVEN,cEIGHT,cNINE,A7aSIDDHAM LETTER A,cAA,cI,",
   "cII,cU,cUU,cVOCALIC R,dRR,dL,dLL,cE,cAI,cO,cAU,cKA,cKHA,cGA,cGHA,cNGA,cCA,cCHA,cJA,cJHA,cNYA,",
   "cTTA,cTTHA,cDDA,cDDHA,cNNA,cTA,cTHA,cDA,cDHA,cNA,cPA,cPHA,cBA,cBHA,cMA,cYA,cRA,cLA,cVA,cSHA,",
   "cSSA,cSA,cHA,bVOWEL SIGN AA,dI,dII,dU,dUU,dVOCALIC R,eRR,3dE,dAI,dO,dAU,bSIGN CANDRABINDU,",
   "cANUSVARA,cVISARGA,cVIRAMA,cNUKTA,cSIDDHAM,bDANDA,bbDOUBLE ,bSEPARATOR DOT,cBAR,",
   "bREPETITION MARK-1,d2,d3,bEND OF TEXT MARK,bSECTION MARK WITH TRIDENT AND U-SHAPED ORNAMENTS,",
   "gDOTTED CRESCENTS,edRAYS ,hbDOUBLE ,hbTRIPLE ,dDOUBLE RING,eRING WITH RAYS,",
   "dWITH DOUBLE CRESCENTS,ebTRIPLE ,ebQUADRUPLE ,ebSEPTUPLE ,eCIRCLES AND RAYS,gTWO ENCLOSURES,",
   "gbFOUR ,bLETTER THREE-CIRCLE ALTERNATE I,cdTWO-,fII,cALTERNATE U,bcVOWEL SIGN ,eUU,",
   "23aMODI LETTER A,cAA,cI,cII,cU,cUU,cVOCALIC R,dRR,dL,dLL,cE,cAI,cO,cAU,cKA,cKHA,cGA,cGHA,cNGA,",
   "cCA,cCHA,cJA,cJHA,cNYA,cTTA,cTTHA,cDDA,cDDHA,cNNA,cTA,cTHA,cDA,cDHA,cNA,cPA,cPHA,cBA,cBHA,cMA,",
   "cYA,cRA,cLA,cVA,cSHA,cSSA,cSA,cHA,cLLA,bVOWEL SIGN AA,dI,dII,dU,dUU,dVOCALIC R,eRR,eL,eLL,dE,",
   "dAI,dO,dAU,bSIGN ANUSVARA,cVISARGA,cVIRAMA,cARDHACANDRA,bDANDA,bbDOUBLE ,bABBREVIATION SIGN,",
   "bSIGN HUVA,CbDIGIT ZERO,cONE,cTWO,cTHREE,cFOUR,cFIVE,cSIX,cSEVEN,cEIGHT,cNINE,",
   "7aMONGOLIAN BIRGA WITH ORNAMENT,bROTATED BIRGA,bDOUBLE BIRGA WITH ORNAMENT,bdTRIPLE ,",
   "bbBIRGA WITH DOUBLE ,bbROTATED BIRGA WITH ,ebDOUBLE ,bINVERTED BIRGA,",
   "cBIRGA WITH DOUBLE ORNAMENT,bSWIRL BIRGA,cBIRGA WITH ORNAMENT,ebDOUBLE ,bfTURNED ,",
   "14aTAKRI LETTER A,cAA,cI,cII,cU,cUU,cE,cAI,cO,cAU,cKA,cKHA,cGA,cGHA,cNGA,cCA,cCHA,cJA,cJHA,",
   "cNYA,cTTA,cTTHA,cDDA,cDDHA,cNNA,cTA,cTHA,cDA,cDHA,cNA,cPA,cPHA,cBA,cBHA,cMA,cYA,cRA,cLA,cVA,",
   "cSHA,cSA,cHA,cRRA,bSIGN ANUSVARA,cVISARGA,bVOWEL SIGN AA,dI,dII,dU,dUU,dE,dAI,dO,dAU,",
   "bSIGN VIRAMA,cNUKTA,bLETTER ARCHAIC KHA,bABBREVIATION SIGN,7bDIGIT ZERO,cONE,cTWO,cTHREE,",
   "cFOUR,cFIVE,cSIX,cSEVEN,cEIGHT,cNINE,37aAHOM LETTER KA,cKHA,cNGA,cNA,cTA,cbALTERNATE ,cPA,",
   "cPHA,cBA,cMA,cJA,cCHA,cTHA,cRA,cLA,cSA,cNYA,cHA,cA,cDA,cDHA,cGA,cbALTERNATE ,cGHA,cBHA,cJHA,",
   "cALTERNATE BA,3bCONSONANT SIGN MEDIAL LA,eRA,ebLIGATING ,bVOWEL SIGN A,dAA,dI,dII,dU,dUU,dE,",
   "dAW,dO,dAI,dAM,bSIGN KILLER,5bDIGIT ZERO,cONE,cTWO,cTHREE,cFOUR,cFIVE,cSIX,cSEVEN,cEIGHT,",
   "cNINE,bNUMBER TEN,cTWENTY,bSIGN SMALL SECTION,cb,cRULAI,bSYMBOL VI,bLETTER CA,cTTA,cTTHA,cDDA,",
   "cDDHA,cNNA,cLLA,BAaDOGRA LETTER A,cAA,cI,cII,cU,cUU,cE,cAI,cO,cAU,cKA,cKHA,cGA,cGHA,cNGA,cCA,",
   "cCHA,cJA,cJHA,cNYA,cTTA,cTTHA,cDDA,cDDHA,cNNA,cTA,cTHA,cDA,cDHA,cNA,cPA,cPHA,cBA,cBHA,cMA,cYA,",
   "cRA,cLA,cVA,cSHA,cSSA,cSA,cHA,cRRA,bVOWEL SIGN AA,dI,dII,dU,dUU,dVOCALIC R,eRR,dE,dAI,dO,dAU,",
   "bSIGN ANUSVARA,cVISARGA,cVIRAMA,cNUKTA,bABBREVIATION SIGN,65aWARANG CITI CAPITAL LETTER NGAA,",
   "eA,eWI,eYU,eYA,eYO,eII,eUU,eE,eO,eANG,eGA,eKO,eENY,eYUJ,eUC,eENN,eODD,eTTE,eNUNG,eDA,eAT,eAM,",
   "eBU,ePU,eHIYO,eHOLO,eHORR,eHAR,eSSUU,eSII,eVIYO,cSMALL LETTER NGAA,eA,eWI,eYU,eYA,eYO,eII,eUU,",
   "eE,eO,eANG,eGA,eKO,eENY,eYUJ,eUC,eENN,eODD,eTTE,eNUNG,eDA,eAT,eAM,eBU,ePU,eHIYO,eHOLO,eHORR,",
   "eHAR,eSSUU,eSII,eVIYO,cDIGIT ZERO,dONE,dTWO,dTHREE,dFOUR,dFIVE,dSIX,dSEVEN,dEIGHT,dNINE,",
   "cNUMBER TEN,dTWENTY,dTHIRTY,dFORTY,dFIFTY,dSIXTY,dSEVENTY,dEIGHTY,dNINETY,DcOM,",
   "aDIVES AKURU LETTER A,dAA,dI,dII,dU,dUU,dE,3dO,3dKA,dKHA,dGA,dGHA,dNGA,dCA,dCHA,dJA,2dNYA,",
   "dTTA,2dDDA,dDDHA,dNNA,dTA,dTHA,dDA,dDHA,dNA,dPA,dPHA,dBA,dBHA,dMA,dYA,dYYA,dRA,dLA,dVA,dSHA,",
   "dSSA,dSA,dHA,dLLA,dZA,cVOWEL SIGN AA,eI,eII,eU,eUU,eE,2eAI,eO,3cSIGN ANUSVARA,dCANDRABINDU,",
   "dHALANTA,cVIRAMA,cPREFIXED NASAL SIGN,cMEDIAL YA,cINITIAL RA,cbMEDIAL ,cSIGN NUKTA,",
   "cDOUBLE DANDA,cGAP FILLER,cEND OF TEXT MARK,AcDIGIT ZERO,dONE,dTWO,dTHREE,dFOUR,dFIVE,dSIX,",
   "dSEVEN,dEIGHT,dNINE,47aNANDINAGARI LETTER A,cAA,cI,cII,cU,cUU,cVOCALIC R,dRR,3cE,cAI,cO,cAU,",
   "cKA,cKHA,cGA,cGHA,cNGA,cCA,cCHA,cJA,cJHA,cNYA,cTTA,cTTHA,cDDA,cDDHA,cNNA,cTA,cTHA,cDA,cDHA,",
   "cNA,cPA,cPHA,cBA,cBHA,cMA,cYA,cRA,cLA,cVA,cSHA,cSSA,cSA,cHA,cLLA,cRRA,bVOWEL SIGN AA,dI,dII,",
   "dU,dUU,dVOCALIC R,eRR,3dE,dAI,dO,dAU,bSIGN ANUSVARA,cVISARGA,cVIRAMA,cAVAGRAHA,cSIDDHAM,",
   "bHEADSTROKE,bVOWEL SIGN PRISHTHAMATRA E,1CaZANABAZAR SQUARE LETTER A,cVOWEL SIGN I,eUE,eU,eE,",
   "eOE,eO,eAI,eAU,eREVERSED I,dLENGTH MARK,cLETTER KA,dKHA,dGA,dGHA,dNGA,dCA,dCHA,dJA,dNYA,dTTA,",
   "dTTHA,dDDA,dDDHA,dNNA,dTA,dTHA,dDA,dDHA,dNA,dPA,dPHA,dBA,dBHA,dMA,dTSA,dTSHA,dDZA,dDZHA,dZHA,",
   "dZA,d-A,dYA,dRA,dLA,dVA,dSHA,dSSA,dSA,dHA,dKSSA,cFINAL CONSONANT MARK,cSIGN VIRAMA,",
   "dCANDRABINDU,dCANDRABINDU WITH ORNAMENT,dcCANDRA ,dANUSVARA,dVISARGA,",
   "cCLUSTER-INITIAL LETTER RA,dFINAL LETTER YA,fRA,fLA,fVA,cINITIAL HEAD MARK,ccCLOSING ,",
   "cMARK TSHEG,dSHAD,dbDOUBLE ,dLONG TSHEG,cINITIAL DOUBLE-LINED HEAD MARK,ceCLOSING ,cSUBJOINER,",
   "9aSOYOMBO LETTER A,bVOWEL SIGN I,dUE,dU,dE,dO,dOE,dAI,dAU,dVOCALIC R,eL,cLENGTH MARK,",
   "bLETTER KA,cKHA,cGA,cGHA,cNGA,cCA,cCHA,cJA,cJHA,cNYA,cTTA,cTTHA,cDDA,cDDHA,cNNA,cTA,cTHA,cDA,",
   "cDHA,cNA,cPA,cPHA,cBA,cBHA,cMA,cTSA,cTSHA,cDZA,cZHA,cZA,c-A,cYA,cRA,cLA,cVA,cSHA,cSSA,cSA,cHA,",
   "cKSSA,bSIGN JIHVAMULIYA,cUPADHMANIYA,bCLUSTER-INITIAL LETTER RA,eLA,eSHA,eSA,",
   "bFINAL CONSONANT SIGN G,eK,eNG,eD,eN,eB,eM,eR,eL,eSH,eS,e-A,bSIGN ANUSVARA,cVISARGA,",
   "bGEMINATION MARK,bSUBJOINER,bMARK TSHEG,cSHAD,cbDOUBLE ,cPLUTA,",
   "bHEAD MARK WITH MOON AND SUN AND TRIPLE FLAME,ib,gSUN,bTERMINAL MARK-1,d2,",
   "EaCANADIAN SYLLABICS NATTILIK HI,dHII,dHO,dHOO,dHA,dHAA,dSHRI,dSHRII,dSHRO,dSHROO,dSHRA,",
   "dSHRAA,cSPE,cSPI,cSPO,cSPA,aPAU CIN HAU LETTER PA,eKA,eLA,eMA,eDA,eZA,eVA,eNGA,eHA,eGA,eKHA,",
   "eSA,eBA,eCA,eTA,eTHA,eNA,ePHA,eRA,eFA,eCHA,eA,eE,eI,eO,eU,eUA,eIA,eFINAL P,fK,fT,fM,fN,fL,fW,",
   "fNG,fY,dRISING TONE LONG,eTONE,dSANDHI GLOTTAL STOP,dRISING TONE LONG FINAL,fb,",
   "dbSANDHI GLOTTAL STOP ,eTONE LONG,eTONE,eTONE LONG FINAL,fb,dMID-LEVEL TONE,",
   "dGLOTTAL STOP VARIANT,dMID-LEVEL TONE LONG FINAL,gb,dLOW-FALLING TONE LONG,fTONE,",
   "dGLOTTAL STOP,dLOW-FALLING TONE LONG FINAL,gb,dbGLOTTAL STOP ,108aBHAIKSUKI LETTER A,cAA,cI,",
   "cII,cU,cUU,cVOCALIC R,dRR,dL,2cE,cAI,cO,cAU,cKA,cKHA,cGA,cGHA,cNGA,cCA,cCHA,cJA,cJHA,cNYA,",
   "cTTA,cTTHA,cDDA,cDDHA,cNNA,cTA,cTHA,cDA,cDHA,cNA,cPA,cPHA,cBA,cBHA,cMA,cYA,cRA,cLA,cVA,cSHA,",
   "cSSA,cSA,cHA,bVOWEL SIGN AA,dI,dII,dU,dUU,dVOCALIC R,eRR,eL,2dE,dAI,dO,dAU,bSIGN CANDRABINDU,",
   "cANUSVARA,cVISARGA,cVIRAMA,cAVAGRAHA,bDANDA,bbDOUBLE ,bWORD SEPARATOR,bGAP FILLER-1,d2,",
   "BbDIGIT ZERO,cONE,cTWO,cTHREE,cFOUR,cFIVE,cSIX,cSEVEN,cEIGHT,cNINE,bNUMBER ONE,cTWO,cTHREE,",
   "cFOUR,cFIVE,cSIX,cSEVEN,cEIGHT,cNINE,cTEN,cTWENTY,cTHIRTY,cFORTY,cFIFTY,cSIXTY,cSEVENTY,",
   "cEIGHTY,cNINETY,bHUNDREDS UNIT MARK,4abMARCHEN HEAD ,bMARK SHAD,bLETTER KA,cKHA,cGA,cNGA,cCA,",
   "cCHA,cJA,cNYA,cTA,cTHA,cDA,cNA,cPA,cPHA,cBA,cMA,cTSA,cTSHA,cDZA,cWA,cZHA,cZA,c-A,cYA,cRA,cLA,",
   "cSHA,cSA,cHA,cA,3bSUBJOINED LETTER KA,dKHA,dGA,dNGA,dCA,dCHA,dJA,dNYA,dTA,dTHA,dDA,dNA,dPA,",
   "dPHA,dBA,dMA,dTSA,dTSHA,dDZA,dWA,dZHA,dZA,2dYA,dRA,dLA,dSHA,dSA,dHA,dA,bVOWEL SIGN AA,dI,dU,",
   "dE,dO,bSIGN ANUSVARA,cCANDRABINDU,4AaMASARAM GONDI LETTER A,dAA,dI,dII,dU,dUU,dE,2dAI,dO,2dAU,",
   "dKA,dKHA,dGA,dGHA,dNGA,dCA,dCHA,dJA,dJHA,dNYA,dTTA,dTTHA,dDDA,dDDHA,dNNA,dTA,dTHA,dDA,dDHA,",
   "dNA,dPA,dPHA,dBA,dBHA,dMA,dYA,dRA,dLA,dVA,dSHA,dSSA,dSA,dHA,dLLA,dKSSA,dJNYA,dTRA,",
   "cVOWEL SIGN AA,eI,eII,eU,eUU,eVOCALIC R,4eE,2eAI,eO,2eAU,cSIGN ANUSVARA,dVISARGA,dNUKTA,",
   "dCANDRA,dHALANTA,cVIRAMA,cREPHA,cRA-KARA,9cDIGIT ZERO,dONE,dTWO,dTHREE,dFOUR,dFIVE,dSIX,",
   "dSEVEN,dEIGHT,dNINE,7aGUNJALA GONDI LETTER A,dAA,dI,dII,dU,dUU,2dEE,dAI,2dOO,dAU,dYA,dVA,dBA,",
   "dBHA,dMA,dKA,dKHA,dTA,dTHA,dLA,dGA,dGHA,dDA,dDHA,dNA,dCA,dCHA,dTTA,dTTHA,dLLA,dJA,dJHA,dDDA,",
   "dDDHA,dNGA,dPA,dPHA,dHA,dRA,dSA,cVOWEL SIGN AA,eI,eII,eU,eUU,2eEE,eAI,2eOO,eAU,cSIGN ANUSVARA,",
   "dVISARGA,cVIRAMA,cOM,8cDIGIT ZERO,dONE,dTWO,dTHREE,dFOUR,dFIVE,dSIX,dSEVEN,dEIGHT,dNINE,",
   "137aMAKASAR LETTER KA,cGA,cNGA,cPA,cBA,cMA,cTA,cDA,cNA,cCA,cJA,cNYA,cYA,cRA,cLA,cVA,cSA,cA,",
   "bANGKA,bVOWEL SIGN I,dU,dE,dO,bPASSIMBANG,bEND OF SECTION,B8aLISU LETTER YHA,",
   "10aTAMIL FRACTION ONE THREE-HUNDRED-AND-TWENTIETH,dONE-HUNDRED-AND-SIXTIETH,dEIGHTIETH,",
   "dSIXTY-FOURTH,dFORTIETH,dTHIRTY-SECOND,cTHREE EIGHTIETHS,dSIXTY-FOURTHS,cONE TWENTIETH,",
   "dSIXTEENTH-1,e2,dTENTH,dEIGHTH,cTHREE TWENTIETHS,dSIXTEENTHS,cONE FIFTH,dQUARTER,dHALF-1,e2,",
   "cTHREE QUARTERS,cDOWNSCALING FACTOR KIIZH,bSIGN NEL,cCEVITU,cAAZHAAKKU,cUZHAKKU,cMUUVUZHAKKU,",
   "cKURUNI,cPATHAKKU,cMUKKURUNI,cKAACU,cPANAM,cPON,cVARAAKAN,cPAARAM,cKUZHI,cVELI,",
   "bWET CULTIVATION SIGN,bcDRY ,bbLAND ,bbSALT PAN ,bbTRADITIONAL CREDIT ,cbNUMBER ,bbCURRENT ,",
   "bbAND ODD ,bbSPENT ,bbTOTAL ,bbIN POSSESSION ,bbSTARTING FROM ,bSIGN MUTHALIYA,cVAKAIYARAA,",
   "EbPUNCTUATION END OF TEXT,aCUNEIFORM SIGN A,cbA TIMES ,eBAD,eGAN2 TENU,eHA,eIGI,eLAGAR GUNU,",
   "eMUSH,eSAG,cA2,cAB,cAB TIMES ASH2,eDUN3 GUNU,eGAL,eGAN2 TENU,eHA,eIGI GUNU,eIMIN,eLAGAB,",
   "eSHESH,eU PLUS U PLUS U,dGUNU,cAB2,cAB2 TIMES BALAG,eGAN2 TENU,eME PLUS EN,eSHA3,eTAK4,cAD,",
   "cAK,cAK TIMES ERIN2,eSHITA PLUS GISH,cAL,cbAL TIMES ,eDIM2,eGISH,eHA,eKAD3,eKI,eSHE,eUSH,",
   "cALAN,cALEPH,cAMAR,cAMAR TIMES SHE,cAN,cbAN OVER ,dTHREE TIMES,",
   "dPLUS NAGA OPPOSING AN PLUS NAGA,fSQUARED,cANSHE,cAPIN,cARAD,cARAD TIMES KUR,cARKAB,cASAL2,",
   "cASH,cASH ZIDA TENU,dbKABA ,dOVER ASH TUG2 OVER TUG2 TUG2 OVER TUG2 PAP,fOVER ASH,",
   "gbASH CROSSING ASH OVER ASH OVER ,cASH2,cASHGAB,cBA,cBAD,cBAG3,cBAHAR2,cBAL,cbBAL OVER ,",
   "cBALAG,cBAR,cBARA2,cBI,cBI TIMES A,eGAR,eIGI GUNU,cBU,cBU OVER BU AB,fUN,dCROSSING BU,cBULUG,",
   "cbBULUG OVER ,cBUR,cBUR2,cDA,cDAG,cDAG KISIM5 TIMES A PLUS MASH,fAMAR,fBALAG,fBI,fGA,",
   "fGA PLUS MASH,fGI,fGIR2,fGUD,fHA,fIR,fIR PLUS LU,fKAK,fLA,fLU,fLU PLUS MASH2,fLUM,fNE,",
   "fPAP PLUS PAP,fSI,fTAK4,fU2 PLUS GIR2,fUSH,cDAM,cDAR,cDARA3,cDARA4,cDI,cDIB,cDIM,",
   "cDIM TIMES SHE,cDIM2,cDIN,cDIN KASKAL U GUNU DISH,cb,cDU,cbDU OVER ,dGUNU,dSHESHIG,cDUB,",
   "cDUB TIMES ESH2,cDUB2,cDUG,cDUGUD,cDUH,cDUN,cDUN3,cDUN3 GUNU,dbGUNU ,cDUN4,cDUR2,cE,",
   "cE TIMES PAP,dOVER E NUN OVER NUN,cE2,cE2 TIMES A PLUS HA PLUS DA,eGAR,eMI,eSAL,eSHE,eU,cEDIN,",
   "cEGIR,cEL,cEN,cEN TIMES GAN2,eGAN2 TENU,eME,dCROSSING EN,dbOPPOSING ,dSQUARED,cEREN,cERIN2,",
   "cESH2,cEZEN,cEZEN TIMES A,eA PLUS LAL,gbLAL TIMES ,eAN,eBAD,eDUN3 GUNU,fbGUNU ,eHA,eHA GUNU,",
   "ebIGI ,eKASKAL,eKASKAL SQUARED,eKU3,eLA,eLAL TIMES LAL,eLI,eLU,eU2,eUD,cGA,cGA GUNU,cGA2,",
   "cGA2 TIMES A PLUS DA PLUS HA,gb,gIGI,eAB2 TENU PLUS TAB,eAN,eASH,eASH2 PLUS GAL,eBAD,",
   "eBAR PLUS RA,eBUR,eBUR PLUS RA,eDA,eDI,eDIM TIMES SHE,eDUB,eEL,eEL PLUS LA,eEN,",
   "eEN TIMES GAN2 TENU,ec,eGAR,eGI,eGI4,eGI4 PLUS A,eGIR2 PLUS SU,eHA PLUS LU PLUS ESH2,eHAL,",
   "eHAL PLUS LA,eHI PLUS LI,eHUB2,eIGI GUNU,eISH PLUS HU PLUS ASH,eKAK,eKASKAL,eKID,",
   "eKID PLUS LAL,eKU3 PLUS AN,eLA,eME PLUS EN,eMI,eNUN,ebNUN OVER ,ePA,eSAL,eSAR,eSHE,",
   "eSHE PLUS TUR,eSHID,eSUM,eTAK4,eU,eUD,eUD PLUS DU,dOVER GA2,cGABA,cbGABA CROSSING ,cGAD,",
   "cGAD OVER GAD GAR OVER GAR,cGAL,cGAL GAD OVER GAD GAR OVER GAR,cGALAM,cGAM,cGAN,cGAN2,",
   "cGAN2 TENU,dOVER GAN2,dbCROSSING ,cGAR,cGAR3,cGASHAN,cGESHTIN,cGESHTIN TIMES KUR,cGI,",
   "cGI TIMES E,eU,dCROSSING GI,cGI4,cbGI4 OVER ,dbCROSSING ,cGIDIM,cGIR2,cGIR2 GUNU,cGIR3,",
   "cGIR3 TIMES A PLUS IGI,eGAN2 TENU,eIGI,ebLU PLUS ,ePA,cGISAL,cGISH,cbGISH CROSSING ,",
   "dTIMES BAD,eTAK4,dTENU,cGU,cbGU CROSSING ,cGU2,cGU2 TIMES KAK,eKAK TIMES IGI GUNU,eNUN,",
   "eSAL PLUS TUG2,dGUNU,cGUD,cGUD TIMES A PLUS KUR,eb,dOVER GUD LUGAL,cGUL,cGUM,cGUM TIMES SHE,",
   "cGUR,cGUR7,cGURUN,cGURUSH,cHA,cHA TENU,dGUNU,cHAL,cHI,cHI TIMES ASH,eASH2,eBAD,eDISH,eGAD,",
   "eKIN,eNUN,eSHE,eU,cHU,cHUB2,cHUB2 TIMES AN,eHAL,eKASKAL,eLISH,eUD,cHUL2,cI,cI A,cIB,cIDIM,",
   "cIDIM OVER IDIM BUR,fSQUARED,cIG,cIGI,cIGI DIB,dRI,dOVER IGI SHIR OVER SHIR UD OVER UD,dGUNU,",
   "cIL,cIL TIMES GAN2 TENU,cIL2,cIM,cIM TIMES TAK4,dCROSSING IM,dbOPPOSING ,dSQUARED,cIMIN,cIN,",
   "cIR,cISH,cKA,cKA TIMES A,eAD,eAD PLUS KU3,eASH2,eBAD,eBALAG,eBAR,eBI,eERIN2,eESH2,eGA,eGAL,",
   "eGAN2 TENU,eGAR,eGAR PLUS SHA3 PLUS A,eGI,eGIR2,eGISH PLUS SAR,fCROSSING GISH,eGU,eGUR7,eIGI,",
   "eIM,eKAK,eKI,eKID,eLI,eLU,eME,eME PLUS DU,gGI,gTE,eMI,eMI PLUS NUNUZ,eNE,eNUN,ePI,eRU,eSA,",
   "eSAR,eSHA,eSHE,eSHID,eSHU,eSIG,eSUHUR,eTAR,eU,eU2,eUD,eUMUM TIMES PA,eUSH,eZI,cKA2,",
   "cbKA2 CROSSING ,cKAB,cKAD2,cKAD3,cKAD4,cKAD5,cbKAD5 OVER ,cKAK,cKAK TIMES IGI GUNU,cKAL,",
   "cKAL TIMES BAD,dCROSSING KAL,cKAM2,cKAM4,cKASKAL,cKASKAL LAGAB TIMES U OVER LAGAB TIMES U,",
   "dhOVER KASKAL ,cKESH2,cKI,cKI TIMES BAD,eU,eUD,cKID,cKIN,cKISAL,cKISH,cKISIM5,cbKISIM5 OVER ,",
   "cKU,cKU OVER HI TIMES ASH2 KU OVER HI TIMES ASH2,cKU3,cKU4,cKU4 VARIANT FORM,cKU7,cKUL,",
   "cKUL GUNU,cKUN,cKUR,cbKUR OPPOSING ,cKUSHU2,cKWU318,cLA,cLAGAB,cLAGAB TIMES A,",
   "eA PLUS DA PLUS HA,gGAR,gLAL,eAL,eAN,eASH ZIDA TENU,eBAD,eBI,eDAR,eEN,eGA,eGAR,eGUD,",
   "ebGUD PLUS ,eHA,eHAL,eHI TIMES NUN,eIGI GUNU,eIM,eIM PLUS HA,gLU,eKI,eKIN,eKU3,eKUL,",
   "eKUL PLUS HI PLUS A,eLAGAB,eLISH,eLU,eLUL,eME,eME PLUS EN,eMUSH,eNE,eSHE PLUS SUM,",
   "eSHITA PLUS GISH PLUS ERIN2,hTENU,eSHU2,ebSHU2 PLUS ,eSUM,eTAG,eTAK4,",
   "eTE PLUS A PLUS SU PLUS NA,eU,eU PLUS A,gU PLUS U,eU2 PLUS ASH,eUD,eUSH,dSQUARED,cLAGAR,",
   "cLAGAR TIMES SHE,eSHE PLUS SUM,dGUNU,dGUNU OVER LAGAR GUNU SHE,cLAHSHU,cLAL,cbLAL TIMES ,cLAM,",
   "cLAM TIMES KUR,eKUR PLUS RU,cLI,cLIL,cLIMMU2,cLISH,cLU,cLU TIMES BAD,cLU2,cLU2 TIMES AL,eBAD,",
   "eESH2,eESH2 TENU,ebGAN2 ,eHI TIMES BAD,eIM,eKAD2,eKAD3,eKAD3 PLUS ASH,eKI,eLA PLUS ASH,eLAGAB,",
   "eME PLUS EN,eNE,eNU,eSI PLUS ASH,eSIK2 PLUS BU,eTUG2,dTENU,dCROSSING LU2,dbOPPOSING ,dSQUARED,",
   "dSHESHIG,cLU3,cLUGAL,cbLUGAL OVER ,dbOPPOSING ,dSHESHIG,cLUH,cLUL,cLUM,cbLUM OVER ,",
   "eLUM GAR OVER GAR,cMA,cMA TIMES TAK4,dGUNU,cMA2,cMAH,cMAR,cMASH,cMASH2,cME,cMES,cMI,cMIN,cMU,",
   "cbMU OVER ,cMUG,cMUG GUNU,cMUNSUB,cMURGU2,cMUSH,cMUSH TIMES A,eKUR,eZA,dOVER MUSH,",
   "eMUSH TIMES A PLUS NA,dCROSSING MUSH,cMUSH3,cMUSH3 TIMES A,eA PLUS DI,eb,dGUNU,cNA,cNA2,cNAGA,",
   "cNAGA INVERTED,dTIMES SHU TENU,dOPPOSING NAGA,cNAGAR,cNAM NUTILLU,cNAM,cNAM2,cNE,cNE TIMES A,",
   "eUD,dSHESHIG,cNI,cNI TIMES E,cNI2,cNIM,cNIM TIMES GAN2 TENU,ecGAR PLUS ,cNINDA2,",
   "cNINDA2 TIMES AN,eASH,ebASH PLUS ,eGUD,eME PLUS GAN2 TENU,eNE,eNUN,eSHE,eSHE PLUS A AN,gASH,",
   "gbASH PLUS ,ecU2 ,eUSH,cNISAG,cNU,cNU11,cNUN,cNUN LAGAR TIMES GAR,fMASH,fSAL,",
   "fbSAL OVER NUN LAGAR TIMES ,fUSH,dTENU,dOVER NUN,dbCROSSING ,eNUN LAGAR OVER LAGAR,cNUNUZ,",
   "cNUNUZ AB2 TIMES ASHGAB,fBI,fDUG,fGUD,fIGI GUNU,fKAD3,fLA,fNE,fSILA3,fU2,dKISIM5 TIMES BI,",
   "fBI U,cPA,cPAD,cPAN,cPAP,cPESH2,cPI,cPI TIMES A,eAB,eBI,eBU,eE,eI,eIB,eU,eU2,dCROSSING PI,",
   "cPIRIG,cPIRIG TIMES KAL,eUD,eZA,dOPPOSING PIRIG,cRA,cRAB,cRI,cRU,cSA,cSAG NUTILLU,cSAG,",
   "cSAG TIMES A,eDU,eDUB,eHA,eKAK,eKUR,eLUM,eMI,eNUN,eSAL,eSHID,eTAB,eU2,eUB,eUM,eUR,eUSH,",
   "dOVER SAG,dGUNU,cSAL,cSAL LAGAB TIMES ASH2,cSANGA2,cSAR,cSHA,cSHA3,cSHA3 TIMES A,eBAD,eGISH,",
   "eNE,eSHU2,eTUR,eU,eU PLUS A,cSHA6,cSHAB6,cSHAR2,cSHE,cSHE HU,",
   "dOVER SHE GAD OVER GAD GAR OVER GAR,fdTAB OVER TAB ,cSHEG9,cSHEN,cSHESH,cSHESH2,cSHESHLAM,",
   "cSHID,cSHID TIMES A,eIM,cSHIM,cSHIM TIMES A,eBAL,eBULUG,eDIN,eGAR,eIGI,eIGI GUNU,eKUSHU2,eLUL,",
   "eMUG,eSAL,cSHINIG,cSHIR,cSHIR TENU,0cbNU11 ,cSHIR OVER SHIR BUR OVER BUR,0cdNU11 OVER NU11 ,",
   "cSHITA,cSHU,cbSHU OVER INVERTED ,cSHU2,cSHUBUR,cSI,cSI GUNU,cSIG,cSIG4,cSIG4 OVER SIG4 SHU2,",
   "cSIK2,cSILA3,cSU,cbSU OVER ,cSUD,cSUD2,cSUHUR,cSUM,cSUMASH,cSUR,cSUR9,cTA,cTA ASTERISK,",
   "dTIMES HI,eMI,dGUNU,cTAB,cTAB OVER TAB NI OVER NI DISH OVER DISH,dSQUARED,cTAG,cTAG TIMES BI,",
   "eGUD,eSHE,eSHU,eTUG2,eUD,cTAK4,cTAR,cTE,cTE GUNU,cTI,cTI TENU,cTIL,cTIR,cTIR TIMES TAK4,",
   "dOVER TIR,eTIR GAD OVER GAD GAR OVER GAR,cTU,cTUG2,cTUK,cTUM,cTUR,cTUR OVER TUR ZA OVER ZA,cU,",
   "cU GUD,dU U,dOVER U PA OVER PA GAR OVER GAR,fSUR OVER SUR,fU REVERSED OVER U REVERSED,cU2,cUB,",
   "cUD,cUD KUSHU2,dTIMES BAD,eMI,eU PLUS U PLUS U,iU GUNU,db,dSHESHIG,dSHESHIG TIMES BAD,cUDUG,",
   "cUM,cUM TIMES LAGAB,eME PLUS DA,eSHA3,eU,cUMBIN,cUMUM,cUMUM TIMES KASKAL,ePA,cUN,cUN GUNU,cUR,",
   "cbUR CROSSING ,dSHESHIG,cUR2,cUR2 TIMES A PLUS HA,gNA,eAL,eHA,eNUN,eU2,eU2 PLUS ASH,gBI,cUR4,",
   "cURI,cURI3,cURU,cURU TIMES A,eASHGAB,eBAR,eDUN,eGA,eGAL,eGAN2 TENU,eGAR,eGU,eHA,eIGI,eIM,eISH,",
   "eKI,eLUM,eMIN,ePA,eSHE,eSIG4,eTU,eU PLUS GUD,eUD,eURUDA,cb,cURUDA TIMES U,cUSH,cUSH TIMES A,",
   "eKU,eKUR,eTAK4,cUSHX,cUSH2,cUSHUMX,cUTUKI,cUZ3,cUZ3 TIMES KASKAL,cUZU,cZA,cZA TENU,",
   "dSQUARED TIMES KUR,cZAG,cZAMX,cZE2,cZI,cbZI OVER ,cZI3,cZIB,cZIB KABA TENU,cZIG,cZIZ2,cZU,",
   "cZU5,cZU5 TIMES A,cZUBUR,cZUM,cKAP ELAMITE,cAB TIMES NUN,cAB2 TIMES A,cAMAR TIMES KUG,",
   "cDAG KISIM5 TIMES U2 PLUS MASH,cDAG3,cDISH PLUS SHU,cDUB TIMES SHE,cEZEN TIMES GUD,eSHE,",
   "cGA2 TIMES AN PLUS KAK PLUS A,eASH2,cGE22,cGIG,cHUSH,cKA TIMES ANSHE,eASH3,eGISH,eGUD,",
   "eHI TIMES ASH2,eLUM,ePA,eSHUL,eTU,eUR2,cLAGAB TIMES GI,cLU2 SHESHIG TIMES BAD,",
   "dTIMES ESH2 PLUS LAL,eSHU,cMESH,cMUSH3 TIMES ZA,cNA4,cNIN,cNIN9,cNINDA2 TIMES BAL,eGI,",
   "cNU11 ROTATED NINETY DEGREES,cPESH2 ASTERISK,cPIR2,cSAG TIMES IGI GUNU,cTI2,cUM TIMES ME,cU U,",
   "67bNUMERIC SIGN TWO ASH,dbTHREE ,dbFOUR ,dbFIVE ,dbSIX ,dbSEVEN ,dbEIGHT ,dbNINE ,dTHREE DISH,",
   "dbFOUR ,dbFIVE ,dbSIX ,dbSEVEN ,dbEIGHT ,dbNINE ,dFOUR U,dbFIVE ,dbSIX ,dbSEVEN ,dbEIGHT ,",
   "dbNINE ,dONE GESH2,dbTWO ,dbTHREE ,dbFOUR ,dbFIVE ,dbSIX ,dbSEVEN ,dbEIGHT ,dbNINE ,",
   "dONE GESHU,dbTWO ,dbTHREE ,dbFOUR ,dbFIVE ,dTWO SHAR2,dbTHREE ,eSHAR2 VARIANT FORM,",
   "dFOUR SHAR2,dbFIVE ,dbSIX ,dbSEVEN ,dbEIGHT ,dbNINE ,dONE SHARU,dbTWO ,dbTHREE ,",
   "eSHARU VARIANT FORM,dFOUR SHARU,dbFIVE ,dSHAR2 TIMES GAL PLUS DISH,hMIN,dONE BURU,dbTWO ,",
   "dbTHREE ,eBURU VARIANT FORM,dFOUR BURU,dbFIVE ,dTHREE VARIANT FORM ESH16,gESH21,",
   "dFOUR VARIANT FORM LIMMU,gLIMMU4,gLIMMU A,hB,dSIX VARIANT FORM ASH9,dSEVEN VARIANT FORM IMIN3,",
   "gIMIN A,hB,dEIGHT VARIANT FORM USSU,gUSSU3,dNINE VARIANT FORM ILIMMU,gILIMMU3,gILIMMU4,",
   "gILIMMU A,dTWO ASH TENU,dcTHREE ,dcFOUR ,dcFIVE ,dcSIX ,dONE BAN2,dbTWO ,dbTHREE ,dbFOUR ,",
   "eBAN2 VARIANT FORM,dFIVE BAN2,eBAN2 VARIANT FORM,dNIGIDAMIN,dNIGIDAESH,dONE ESHE3,dbTWO ,",
   "dONE THIRD DISH,dbTWO THIRDS ,dbFIVE SIXTHS ,dONE THIRD VARIANT FORM A,ddTWO THIRDS ,",
   "dONE EIGHTH ASH,ebQUARTER ,dOLD ASSYRIAN ONE SIXTH,gQUARTER,dONE QUARTER GUR,ebHALF ,",
   "dELAMITE ONE THIRD,eTWO THIRDS,eFORTY,eFIFTY,dFOUR U VARIANT FORM,ddFIVE ,ddSIX ,ddSEVEN ,",
   "ddEIGHT ,ddNINE ,2bPUNCTUATION SIGN OLD ASSYRIAN WORD DIVIDER,dVERTICAL COLON,dbDIAGONAL ,",
   "eTRICOLON,eQUADCOLON,CbSIGN AB TIMES NUN TENU,eSHU2,cAD TIMES ESH2,cBAD TIMES DISH TENU,",
   "cBAHAR2 TIMES AB2,eNI,eZA,cBU OVER BU TIMES NA2,cDA TIMES TAK4,cDAG TIMES KUR,cDIM TIMES IGI,",
   "eU U U,cDIM2 TIMES UD,cDUG TIMES ANSHE,eASH,eASH AT LEFT,eDIN,eDUN,eERIN2,eGA,eGI,eGIR2 GUNU,",
   "eGISH,eHA,eHI,eIGI GUNU,eKASKAL,eKUR,eKUSHU2,eKUSHU2 PLUS KASKAL,eLAK-020,eLAM,eLAM TIMES KUR,",
   "eLUH PLUS GISH,eMASH,eMES,eMI,eNI,ePI,eSHE,eSI GUNU,cE2 TIMES KUR,ePAP,cERIN2 X,",
   "cESH2 CROSSING ESH2,cEZEN SHESHIG TIMES ASH,fHI,fIGI GUNU,fLA,fLAL,fME,fMES,fSU,dc,",
   "cGA2 TIMES BAHAR2,eDIM GUNU,ebDUG TIMES IGI ,gKASKAL,eEREN,eGA,eGAR PLUS DI,gNE,eHA PLUS A,",
   "eKUSHU2 PLUS KASKAL,eLAM,eLAM TIMES KUR,eLUH,eMUSH,eNE,eNE PLUS E2,gGI,eSHIM,eZIZ2,",
   "cGABA ROTATED NINETY DEGREES,cGESHTIN TIMES U,cGISH TIMES GISH CROSSING GISH,",
   "cGU2 TIMES IGI GUNU,cGUD PLUS GISH TIMES TAK4,cHA TENU GUNU,cHI TIMES ASH OVER HI TIMES ASH,",
   "cKA TIMES BU,eKA,eU U U,eUR,cLAGAB TIMES ZU OVER ZU,cLAK-003,d021,d025,d030,d050,d051,d062,",
   "d079 OVER LAK-079 GUNU,d080,d081 OVER LAK-081,d092,d130,d142,d210,d219,d220,d225,d228,d238,",
   "d265,d266,d343,d347,d348,d383,d384,d390,d441,d449,d449 TIMES GU,fIGI,fPAP PLUS LU3,",
   "hbPAP PLUS ,fU2 PLUS BA,d450,d457,d470,d483,d490,d492,d493,d495,d550,d608,d617,d617 TIMES ASH,",
   "fBAD,fDUN3 GUNU GUNU,fKU3,fLA,fTAR,fTE,fU2,fUD,fURUDA,d636,d648,d648 TIMES DUB,fGA,fIGI,",
   "fIGI GUNU,fNI,fPAP PLUS PAP PLUS LU3,fSHESH PLUS KI,fUD,fURUDA,d724,d749,cLU2 GUNU TIMES ASH,",
   "dTIMES DISH,eHAL,ePAP,ePAP PLUS PAP PLUS LU3,eTAK4,cMI PLUS ZA7,cMUSH OVER MUSH TIMES GA,gKAK,",
   "cNINDA2 TIMES DIM GUNU,eGISH,eGUL,eHI,eKESH2,eLAK-050,eMASH,ePAP PLUS PAP,eU,ebU PLUS ,eURUDA,",
   "cSAG GUNU TIMES HA,dTIMES EN,eSHE AT LEFT,eTAK4,cSHA6 TENU,cSHE OVER SHE,dPLUS HUB2,eNAM2,",
   "eSAR,cSHU2 PLUS DUG TIMES NI,eE2 TIMES AN,cSI TIMES TAK4,cTAK4 PLUS SAG,cTUM TIMES GAN2 TENU,",
   "eTHREE DISH,cUR2 INVERTED,dTIMES UD,cURU TIMES DARA3,eLAK-668,eLU3,cZA7,cZU OVER ZU PLUS SAR,",
   "cZU5 TIMES THREE DISH TENU,A4DaCYPRO-MINOAN SIGN CM001,dCM002,dCM004,dCM005,dCM006,dCM007,",
   "dCM008,dCM009,dCM010,dCM011,dCM012,dCM012B,dCM013,dCM015,dCM017,dCM019,dCM021,dCM023,dCM024,",
   "dCM025,dCM026,dCM027,dCM028,dCM029,dCM030,dCM033,dCM034,dCM035,dCM036,dCM037,dCM038,dCM039,",
   "dCM040,dCM041,dCM044,dCM046,dCM047,dCM049,dCM050,dCM051,dCM052,dCM053,dCM054,dCM055,dCM056,",
   "dCM058,dCM059,dCM060,dCM061,dCM062,dCM063,dCM064,dCM066,dCM067,dCM068,dCM069,dCM070,dCM071,",
   "dCM072,dCM073,dCM074,dCM075,dCM075B,dCM076,dCM078,dCM079,dCM080,dCM081,dCM082,dCM083,dCM084,",
   "dCM085,dCM086,dCM087,dCM088,dCM089,dCM090,dCM091,dCM092,dCM094,dCM095,dCM096,dCM097,dCM098,",
   "dCM099,dCM100,dCM101,dCM102,dCM103,dCM104,dCM105,dCM107,dCM108,dCM109,dCM110,dCM112,dCM114,",
   "dCM301,dCM302,EaEGYPTIAN HIEROGLYPH A001,cA002,cA003,cA004,cA005,cA005A,cA006,cA006A,cA006B,",
   "cA007,cA008,cA009,cA010,cA011,cA012,cA013,cA014,cA014A,cA015,cA016,cA017,cA017A,cA018,cA019,",
   "cA020,cA021,cA022,cA023,cA024,cA025,cA026,cA027,cA028,cA029,cA030,cA031,cA032,cA032A,cA033,",
   "cA034,cA035,cA036,cA037,cA038,cA039,cA040,cA040A,cA041,cA042,cA042A,cA043,cA043A,cA044,cA045,",
   "cA045A,cA046,cA047,cA048,cA049,cA050,cA051,cA052,cA053,cA054,cA055,cA056,cA057,cA058,cA059,",
   "cA060,cA061,cA062,cA063,cA064,cA065,cA066,cA067,cA068,cA069,cA070,cB001,cB002,cB003,cB004,",
   "cB005,cB005A,cB006,cB007,cB008,cB009,cC001,cC002,cC002A,cC002B,cC002C,cC003,cC004,cC005,cC006,",
   "cC007,cC008,cC009,cC010,cC010A,cC011,cC012,cC013,cC014,cC015,cC016,cC017,cC018,cC019,cC020,",
   "cC021,cC022,cC023,cC024,cD001,cD002,cD003,cD004,cD005,cD006,cD007,cD008,cD008A,cD009,cD010,",
   "cD011,cD012,cD013,cD014,cD015,cD016,cD017,cD018,cD019,cD020,cD021,cD022,cD023,cD024,cD025,",
   "cD026,cD027,cD027A,cD028,cD029,cD030,cD031,cD031A,cD032,cD033,cD034,cD034A,cD035,cD036,cD037,",
   "cD038,cD039,cD040,cD041,cD042,cD043,cD044,cD045,cD046,cD046A,cD047,cD048,cD048A,cD049,cD050,",
   "cD050A,cD050B,cD050C,cD050D,cD050E,cD050F,cD050G,cD050H,cD050I,cD051,cD052,cD052A,cD053,cD054,",
   "cD054A,cD055,cD056,cD057,cD058,cD059,cD060,cD061,cD062,cD063,cD064,cD065,cD066,cD067,cD067A,",
   "cD067B,cD067C,cD067D,cD067E,cD067F,cD067G,cD067H,cE001,cE002,cE003,cE004,cE005,cE006,cE007,",
   "cE008,cE008A,cE009,cE009A,cE010,cE011,cE012,cE013,cE014,cE015,cE016,cE016A,cE017,cE017A,cE018,",
   "cE019,cE020,cE020A,cE021,cE022,cE023,cE024,cE025,cE026,cE027,cE028,cE028A,cE029,cE030,cE031,",
   "cE032,cE033,cE034,cE034A,cE036,cE037,cE038,cF001,cF001A,cF002,cF003,cF004,cF005,cF006,cF007,",
   "cF008,cF009,cF010,cF011,cF012,cF013,cF013A,cF014,cF015,cF016,cF017,cF018,cF019,cF020,cF021,",
   "cF021A,cF022,cF023,cF024,cF025,cF026,cF027,cF028,cF029,cF030,cF031,cF031A,cF032,cF033,cF034,",
   "cF035,cF036,cF037,cF037A,cF038,cF038A,cF039,cF040,cF041,cF042,cF043,cF044,cF045,cF045A,cF046,",
   "cF046A,cF047,cF047A,cF048,cF049,cF050,cF051,cF051A,cF051B,cF051C,cF052,cF053,cG001,cG002,",
   "cG003,cG004,cG005,cG006,cG006A,cG007,cG007A,cG007B,cG008,cG009,cG010,cG011,cG011A,cG012,cG013,",
   "cG014,cG015,cG016,cG017,cG018,cG019,cG020,cG020A,cG021,cG022,cG023,cG024,cG025,cG026,cG026A,",
   "cG027,cG028,cG029,cG030,cG031,cG032,cG033,cG034,cG035,cG036,cG036A,cG037,cG037A,cG038,cG039,",
   "cG040,cG041,cG042,cG043,cG043A,cG044,cG045,cG045A,cG046,cG047,cG048,cG049,cG050,cG051,cG052,",
   "cG053,cG054,cH001,cH002,cH003,cH004,cH005,cH006,cH006A,cH007,cH008,cI001,cI002,cI003,cI004,",
   "cI005,cI005A,cI006,cI007,cI008,cI009,cI009A,cI010,cI010A,cI011,cI011A,cI012,cI013,cI014,cI015,",
   "cK001,cK002,cK003,cK004,cK005,cK006,cK007,cK008,cL001,cL002,cL002A,cL003,cL004,cL005,cL006,",
   "cL006A,cL007,cL008,cM001,cM001A,cM001B,cM002,cM003,cM003A,cM004,cM005,cM006,cM007,cM008,cM009,",
   "cM010,cM010A,cM011,cM012,cM012A,cM012B,cM012C,cM012D,cM012E,cM012F,cM012G,cM012H,cM013,cM014,",
   "cM015,cM015A,cM016,cM016A,cM017,cM017A,cM018,cM019,cM020,cM021,cM022,cM022A,cM023,cM024,",
   "cM024A,cM025,cM026,cM027,cM028,cM028A,cM029,cM030,cM031,cM031A,cM032,cM033,cM033A,cM033B,",
   "cM034,cM035,cM036,cM037,cM038,cM039,cM040,cM040A,cM041,cM042,cM043,cM044,cN001,cN002,cN003,",
   "cN004,cN005,cN006,cN007,cN008,cN009,cN010,cN011,cN012,cN013,cN014,cN015,cN016,cN017,cN018,",
   "cN018A,cN018B,cN019,cN020,cN021,cN022,cN023,cN024,cN025,cN025A,cN026,cN027,cN028,cN029,cN030,",
   "cN031,cN032,cN033,cN033A,cN034,cN034A,cN035,cN035A,cN036,cN037,cN037A,cN038,cN039,cN040,cN041,",
   "cN042,cNL001,cNL002,cNL003,cNL004,cNL005,cNL005A,cNL006,cNL007,cNL008,cNL009,cNL010,cNL011,",
   "cNL012,cNL013,cNL014,cNL015,cNL016,cNL017,cNL017A,cNL018,cNL019,cNL020,cNU001,cNU002,cNU003,",
   "cNU004,cNU005,cNU006,cNU007,cNU008,cNU009,cNU010,cNU010A,cNU011,cNU011A,cNU012,cNU013,cNU014,",
   "cNU015,cNU016,cNU017,cNU018,cNU018A,cNU019,cNU020,cNU021,cNU022,cNU022A,cO001,cO001A,cO002,",
   "cO003,cO004,cO005,cO005A,cO006,cO006A,cO006B,cO006C,cO006D,cO006E,cO006F,cO007,cO008,cO009,",
   "cO010,cO010A,cO010B,cO010C,cO011,cO012,cO013,cO014,cO015,cO016,cO017,cO018,cO019,cO019A,cO020,",
   "cO020A,cO021,cO022,cO023,cO024,cO024A,cO025,cO025A,cO026,cO027,cO028,cO029,cO029A,cO030,",
   "cO030A,cO031,cO032,cO033,cO033A,cO034,cO035,cO036,cO036A,cO036B,cO036C,cO036D,cO037,cO038,",
   "cO039,cO040,cO041,cO042,cO043,cO044,cO045,cO046,cO047,cO048,cO049,cO050,cO050A,cO050B,cO051,",
   "cP001,cP001A,cP002,cP003,cP003A,cP004,cP005,cP006,cP007,cP008,cP009,cP010,cP011,cQ001,cQ002,",
   "cQ003,cQ004,cQ005,cQ006,cQ007,cR001,cR002,cR002A,cR003,cR003A,cR003B,cR004,cR005,cR006,cR007,",
   "cR008,cR009,cR010,cR010A,cR011,cR012,cR013,cR014,cR015,cR016,cR016A,cR017,cR018,cR019,cR020,",
   "cR021,cR022,cR023,cR024,cR025,cR026,cR027,cR028,cR029,cS001,cS002,cS002A,cS003,cS004,cS005,",
   "cS006,cS006A,cS007,cS008,cS009,cS010,cS011,cS012,cS013,cS014,cS014A,cS014B,cS015,cS016,cS017,",
   "cS017A,cS018,cS019,cS020,cS021,cS022,cS023,cS024,cS025,cS026,cS026A,cS026B,cS027,cS028,cS029,",
   "cS030,cS031,cS032,cS033,cS034,cS035,cS035A,cS036,cS037,cS038,cS039,cS040,cS041,cS042,cS043,",
   "cS044,cS045,cS046,cT001,cT002,cT003,cT003A,cT004,cT005,cT006,cT007,cT007A,cT008,cT008A,cT009,",
   "cT009A,cT010,cT011,cT011A,cT012,cT013,cT014,cT015,cT016,cT016A,cT017,cT018,cT019,cT020,cT021,",
   "cT022,cT023,cT024,cT025,cT026,cT027,cT028,cT029,cT030,cT031,cT032,cT032A,cT033,cT033A,cT034,",
   "cT035,cT036,cU001,cU002,cU003,cU004,cU005,cU006,cU006A,cU006B,cU007,cU008,cU009,cU010,cU011,",
   "cU012,cU013,cU014,cU015,cU016,cU017,cU018,cU019,cU020,cU021,cU022,cU023,cU023A,cU024,cU025,",
   "cU026,cU027,cU028,cU029,cU029A,cU030,cU031,cU032,cU032A,cU033,cU034,cU035,cU036,cU037,cU038,",
   "cU039,cU040,cU041,cU042,cV001,cV001A,cV001B,cV001C,cV001D,cV001E,cV001F,cV001G,cV001H,cV001I,",
   "cV002,cV002A,cV003,cV004,cV005,cV006,cV007,cV007A,cV007B,cV008,cV009,cV010,cV011,cV011A,",
   "cV011B,cV011C,cV012,cV012A,cV012B,cV013,cV014,cV015,cV016,cV017,cV018,cV019,cV020,cV020A,",
   "cV020B,cV020C,cV020D,cV020E,cV020F,cV020G,cV020H,cV020I,cV020J,cV020K,cV020L,cV021,cV022,",
   "cV023,cV023A,cV024,cV025,cV026,cV027,cV028,cV028A,cV029,cV029A,cV030,cV030A,cV031,cV031A,",
   "cV032,cV033,cV033A,cV034,cV035,cV036,cV037,cV037A,cV038,cV039,cV040,cV040A,cW001,cW002,cW003,",
   "cW003A,cW004,cW005,cW006,cW007,cW008,cW009,cW009A,cW010,cW010A,cW011,cW012,cW013,cW014,cW014A,",
   "cW015,cW016,cW017,cW017A,cW018,cW018A,cW019,cW020,cW021,cW022,cW023,cW024,cW024A,cW025,cX001,",
   "cX002,cX003,cX004,cX004A,cX004B,cX005,cX006,cX006A,cX007,cX008,cX008A,cY001,cY001A,cY002,",
   "cY003,cY004,cY005,cY006,cY007,cY008,cZ001,cZ002,cZ002A,cZ002B,cZ002C,cZ002D,cZ003,cZ003A,",
   "cZ003B,cZ004,cZ004A,cZ005,cZ005A,cZ006,cZ007,cZ008,cZ009,cZ010,cZ011,cZ012,cZ013,cZ014,cZ015,",
   "cZ015A,cZ015B,cZ015C,cZ015D,cZ015E,cZ015F,cZ015G,cZ015H,cZ015I,cZ016,cZ016A,cZ016B,cZ016C,",
   "cZ016D,cZ016E,cZ016F,cZ016G,cZ016H,cAA001,cAA002,cAA003,cAA004,cAA005,cAA006,cAA007,cAA007A,",
   "cAA007B,cAA008,cAA009,cAA010,cAA011,cAA012,cAA013,cAA014,cAA015,cAA016,cAA017,cAA018,cAA019,",
   "cAA020,cAA021,cAA022,cAA023,cAA024,cAA025,cAA026,cAA027,cAA028,cAA029,cAA030,cAA031,cAA032,",
   "2cVERTICAL JOINER,cbHORIZONTAL ,cINSERT AT TOP START,ebBOTTOM ,eTOP END,ebBOTTOM ,",
   "cOVERLAY MIDDLE,cBEGIN SEGMENT,cbEND ,"]

end EnumCodec.Text
