/-!
# EnumCodec.Text.CharacterName.Scripts

**The names of the characters from U+A4D0 to U+FFFF.** The data are those of the Unicode standard,
version 14, with the aliases of characters; names that a rule of the standard gives are left out.
How an entry tells a name from the one before is said where the entries are read.
-/

namespace EnumCodec.Text

/-- The names of the characters from U+A4D0 to U+FFFF. -/
def scriptNameRows : List String :=
  ["A4D0aLISU LETTER BA,cPA,cPHA,cDA,cTA,cTHA,cGA,cKA,cKHA,cJA,cCA,cCHA,cDZA,cTSA,cTSHA,cMA,cNA,",
   "cLA,cSA,cZHA,cZA,cNGA,cHA,cXA,cHHA,cFA,cWA,cSHA,cYA,cGHA,cA,cAE,cE,cEU,cI,cO,cU,cUE,cUH,cOE,",
   "cTONE MYA TI,dNA PO,dMYA CYA,eBO,eNA,eJEU,bPUNCTUATION COMMA,cFULL STOP,aVAI SYLLABLE EE,cEEN,",
   "cHEE,cWEE,cWEEN,cPEE,cBHEE,cBEE,cMBEE,cKPEE,cMGBEE,cGBEE,cFEE,cVEE,cTEE,cTHEE,cDHEE,cDHHEE,",
   "cLEE,cREE,cDEE,cNDEE,cSEE,cSHEE,cZEE,cZHEE,cCEE,cJEE,cNJEE,cYEE,cKEE,cNGGEE,cGEE,cMEE,cNEE,",
   "cNYEE,cI,cIN,cHI,cHIN,cWI,cWIN,cPI,cBHI,cBI,cMBI,cKPI,cMGBI,cGBI,cFI,cVI,cTI,cTHI,cDHI,cDHHI,",
   "cLI,cRI,cDI,cNDI,cSI,cSHI,cZI,cZHI,cCI,cJI,cNJI,cYI,cKI,cNGGI,cGI,cMI,cNI,cNYI,cA,cAN,cNGAN,",
   "cHA,cHAN,cWA,cWAN,cPA,cBHA,cBA,cMBA,cKPA,cKPAN,cMGBA,cGBA,cFA,cVA,cTA,cTHA,cDHA,cDHHA,cLA,cRA,",
   "cDA,cNDA,cSA,cSHA,cZA,cZHA,cCA,cJA,cNJA,cYA,cKA,cKAN,cNGGA,cGA,cMA,cNA,cNYA,cOO,cOON,cHOO,",
   "cWOO,cWOON,cPOO,cBHOO,cBOO,cMBOO,cKPOO,cMGBOO,cGBOO,cFOO,cVOO,cTOO,cTHOO,cDHOO,cDHHOO,cLOO,",
   "cROO,cDOO,cNDOO,cSOO,cSHOO,cZOO,cZHOO,cCOO,cJOO,cNJOO,cYOO,cKOO,cNGGOO,cGOO,cMOO,cNOO,cNYOO,",
   "cU,cUN,cHU,cHUN,cWU,cWUN,cPU,cBHU,cBU,cMBU,cKPU,cMGBU,cGBU,cFU,cVU,cTU,cTHU,cDHU,cDHHU,cLU,",
   "cRU,cDU,cNDU,cSU,cSHU,cZU,cZHU,cCU,cJU,cNJU,cYU,cKU,cNGGU,cGU,cMU,cNU,cNYU,cO,cON,cNGON,cHO,",
   "cHON,cWO,cWON,cPO,cBHO,cBO,cMBO,cKPO,cMGBO,cGBO,cGBON,cFO,cVO,cTO,cTHO,cDHO,cDHHO,cLO,cRO,cDO,",
   "cNDO,cSO,cSHO,cZO,cZHO,cCO,cJO,cNJO,cYO,cKO,cNGGO,cGO,cMO,cNO,cNYO,cE,cEN,cNGEN,cHE,cHEN,cWE,",
   "cWEN,cPE,cBHE,cBE,cMBE,cKPE,cKPEN,cMGBE,cGBE,cGBEN,cFE,cVE,cTE,cTHE,cDHE,cDHHE,cLE,cRE,cDE,",
   "cNDE,cSE,cSHE,cZE,cZHE,cCE,cJE,cNJE,cYE,cKE,cNGGE,cNGGEN,cGE,cGEN,cME,cNE,cNYE,cNG,",
   "cLENGTHENER,bCOMMA,bFULL STOP,bQUESTION MARK,bSYLLABLE NDOLE FA,dKA,dSOO,bSYMBOL FEENG,cKEENG,",
   "cTING,cNII,cBANG,cFAA,cTAA,cDANG,cDOONG,cKUNG,cTONG,cDO-O,cJONG,bDIGIT ZERO,cONE,cTWO,cTHREE,",
   "cFOUR,cFIVE,cSIX,cSEVEN,cEIGHT,cNINE,bSYLLABLE NDOLE MA,dDO,15aCYRILLIC CAPITAL LETTER ZEMLYA,",
   "bcSMALL ,bCAPITAL LETTER DZELO,bcSMALL ,bCAPITAL LETTER REVERSED DZE,bdSMALL ,",
   "bCAPITAL LETTER IOTA,bcSMALL ,bCAPITAL LETTER DJERV,bcSMALL ,bCAPITAL LETTER MONOGRAPH UK,",
   "bdSMALL ,bCAPITAL LETTER BROAD OMEGA,bdSMALL ,bCAPITAL LETTER NEUTRAL YER,bdSMALL ,",
   "bbCAPITAL LETTER YERU WITH BACK ,bfSMALL ,bCAPITAL LETTER IOTIFIED YAT,bdSMALL ,",
   "bCAPITAL LETTER REVERSED YU,bdSMALL ,bCAPITAL LETTER IOTIFIED A,bdSMALL ,",
   "bCAPITAL LETTER CLOSED LITTLE YUS,beSMALL ,bbCAPITAL LETTER BLENDED ,bdSMALL ,",
   "bbCAPITAL LETTER IOTIFIED CLOSED LITTLE ,bfSMALL ,bCAPITAL LETTER YN,bcSMALL ,",
   "bCAPITAL LETTER REVERSED TSE,bdSMALL ,bCAPITAL LETTER SOFT DE,bdSMALL ,",
   "bCAPITAL LETTER SOFT EL,bdSMALL ,bCAPITAL LETTER SOFT EM,bdSMALL ,bCAPITAL LETTER MONOCULAR O,",
   "bdSMALL ,bbCAPITAL LETTER BINOCULAR ,bdSMALL ,bbCAPITAL LETTER DOUBLE MONOCULAR ,beSMALL ,",
   "bbLETTER MULTIOCULAR ,aCOMBINING CYRILLIC VZMET,cTEN MILLIONS SIGN,ccHUNDRED ,ccTHOUSAND ,",
   "aSLAVONIC ASTERISK,aCOMBINING CYRILLIC LETTER UKRAINIAN IE,dI,dYI,dU,dHARD SIGN,dYERU,",
   "dSOFT SIGN,dOMEGA,cKAVYKA,cPAYEROK,aCYRILLIC KAVYKA,bPAYEROK,bCAPITAL LETTER DWE,bcSMALL ,",
   "bCAPITAL LETTER DZWE,bcSMALL ,bCAPITAL LETTER ZHWE,bcSMALL ,bCAPITAL LETTER CCHE,bcSMALL ,",
   "bCAPITAL LETTER DZZE,bcSMALL ,bCAPITAL LETTER TE WITH MIDDLE HOOK,bfSMALL ,",
   "bCAPITAL LETTER TWE,bcSMALL ,bCAPITAL LETTER TSWE,bcSMALL ,bCAPITAL LETTER TSSE,bcSMALL ,",
   "bCAPITAL LETTER TCHE,bcSMALL ,bCAPITAL LETTER HWE,bcSMALL ,bCAPITAL LETTER SHWE,bcSMALL ,",
   "bCAPITAL LETTER DOUBLE O,bdSMALL ,bbCAPITAL LETTER CROSSED ,bdSMALL ,",
   "aMODIFIER LETTER CYRILLIC HARD SIGN,dbSOFT ,aCOMBINING CYRILLIC LETTER EF,dIOTIFIED E,",
   "aBAMUM LETTER A,cKA,cU,cKU,cEE,cREE,cTAE,cO,cNYI,cI,cLA,cPA,cRII,cRIEE,cLEEEE,cMEEEE,cTAA,",
   "cNDAA,cNJAEM,cM,cSUU,cMU,cSHII,cSI,cSHEUX,cSEUX,cKYEE,cKET,cNUAE,cNU,cNJUAE,cYOQ,cSHU,cYUQ,",
   "cYA,cNSHA,cKEUX,cPEUX,cNJEE,cNTEE,cPUE,cWUE,cPEE,cFEE,cRU,cLU,cMI,cNI,cREUX,cRAE,cKEN,",
   "cNGKWAEN,cNGGA,cNGA,cSHO,cPUAE,cFU,cFOM,cWA,cNA,cLI,cPI,cLOQ,cKO,cMBEN,cREN,cMEN,cMA,cTI,cKI,",
   "cMO,cMBAA,cTET,cKPA,cTEN,cNTUU,cSAMBA,cFAAMAE,cKOVUU,cKOGHOM,bCOMBINING MARK KOQNDON,",
   "dTUKWENTIS,bNJAEMLI,bFULL STOP,bCOLON,bCOMMA,bSEMICOLON,bQUESTION MARK,",
   "9aMODIFIER LETTER CHINESE TONE YIN PING,ebYANG ,eYIN SHANG,ebYANG ,eYIN QU,ebYANG ,eYIN RU,",
   "ebYANG ,cEXTRA-HIGH DOTTED TONE BAR,ce,cdMID ,cdLOW ,ceEXTRA-,dcHIGH DOTTED LEFT-STEM ,cg,",
   "cfMID ,cfLOW ,cgEXTRA-,deHIGH ,cf,ceMID ,ceLOW ,cfEXTRA-,cbDOT VERTICAL ,dSLASH,",
   "dHORIZONTAL BAR,cLOWER RIGHT CORNER ANGLE,cRAISED UP ARROW,dbDOWN ,dEXCLAMATION MARK,",
   "dcINVERTED ,cdLOW ,cSTRESS AND HIGH TONE,ebLOW ,aLATIN CAPITAL LETTER EGYPTOLOGICAL ALEF,",
   "bdSMALL ,bCAPITAL LETTER EGYPTOLOGICAL AIN,bdSMALL ,bCAPITAL LETTER HENG,bcSMALL ,",
   "bCAPITAL LETTER TZ,bcSMALL ,bCAPITAL LETTER TRESILLO,bcSMALL ,bCAPITAL LETTER CUATRILLO,",
   "bcSMALL ,bCAPITAL LETTER CUATRILLO WITH COMMA,beSMALL ,bLETTER SMALL CAPITAL F,eS,",
   "bCAPITAL LETTER AA,bcSMALL ,bCAPITAL LETTER AO,bcSMALL ,bCAPITAL LETTER AU,bcSMALL ,",
   "bCAPITAL LETTER AV,bcSMALL ,bCAPITAL LETTER AV WITH HORIZONTAL BAR,bfSMALL ,",
   "bCAPITAL LETTER AY,bcSMALL ,bCAPITAL LETTER REVERSED C WITH DOT,bfSMALL ,",
   "bCAPITAL LETTER K WITH STROKE,beSMALL ,bbCAPITAL LETTER K WITH DIAGONAL ,bfSMALL ,",
   "bcCAPITAL LETTER K WITH STROKE AND ,bhSMALL ,bCAPITAL LETTER BROKEN L,bdSMALL ,",
   "bCAPITAL LETTER L WITH HIGH STROKE,bfSMALL ,bCAPITAL LETTER O WITH LONG STROKE OVERLAY,",
   "bgSMALL ,bCAPITAL LETTER O WITH LOOP,beSMALL ,bCAPITAL LETTER OO,bcSMALL ,",
   "bCAPITAL LETTER P WITH STROKE THROUGH DESCENDER,bgSMALL ,bCAPITAL LETTER P WITH FLOURISH,",
   "beSMALL ,bCAPITAL LETTER P WITH SQUIRREL TAIL,bfSMALL ,",
   "bCAPITAL LETTER Q WITH STROKE THROUGH DESCENDER,bgSMALL ,",
   "bCAPITAL LETTER Q WITH DIAGONAL STROKE,bfSMALL ,bCAPITAL LETTER R ROTUNDA,bdSMALL ,",
   "bbCAPITAL LETTER RUM ,bdSMALL ,bCAPITAL LETTER V WITH DIAGONAL STROKE,bfSMALL ,",
   "bCAPITAL LETTER VY,bcSMALL ,bCAPITAL LETTER VISIGOTHIC Z,bdSMALL ,",
   "bCAPITAL LETTER THORN WITH STROKE,beSMALL ,",
   "bCAPITAL LETTER THORN WITH STROKE THROUGH DESCENDER,bgSMALL ,bCAPITAL LETTER VEND,bcSMALL ,",
   "bCAPITAL LETTER ET,bcSMALL ,bCAPITAL LETTER IS,bcSMALL ,bCAPITAL LETTER CON,bcSMALL ,",
   "aMODIFIER LETTER US,aLATIN SMALL LETTER DUM,dLUM,dMUM,dNUM,dRUM,bbLETTER SMALL CAPITAL ,",
   "bSMALL LETTER TUM,dUM,bCAPITAL LETTER INSULAR D,bdSMALL ,bCAPITAL LETTER INSULAR F,bdSMALL ,",
   "bCAPITAL LETTER INSULAR G,dcTURNED ,beSMALL ,bCAPITAL LETTER TURNED L,bdSMALL ,",
   "bCAPITAL LETTER INSULAR R,bdSMALL ,bCAPITAL LETTER INSULAR S,bdSMALL ,",
   "bCAPITAL LETTER INSULAR T,bdSMALL ,aMODIFIER LETTER LOW CIRCUMFLEX ACCENT,cCOLON,",
   "cSHORT EQUALS SIGN,aLATIN CAPITAL LETTER SALTILLO,bcSMALL ,bCAPITAL LETTER TURNED H,",
   "bSMALL LETTER L WITH RETROFLEX HOOK AND BELT,bLETTER SINOLOGICAL DOT,",
   "bCAPITAL LETTER N WITH DESCENDER,beSMALL ,bCAPITAL LETTER C WITH BAR,beSMALL ,fPALATAL HOOK,",
   "ddH ,bCAPITAL LETTER B WITH FLOURISH,beSMALL ,bCAPITAL LETTER F WITH STROKE,beSMALL ,",
   "bCAPITAL LETTER VOLAPUK AE,bdSMALL ,bCAPITAL LETTER VOLAPUK OE,bdSMALL ,",
   "bCAPITAL LETTER VOLAPUK UE,bdSMALL ,bCAPITAL LETTER G WITH OBLIQUE STROKE,bfSMALL ,",
   "bdCAPITAL LETTER K ,bfSMALL ,bdCAPITAL LETTER N ,bfSMALL ,bdCAPITAL LETTER R ,bfSMALL ,",
   "bdCAPITAL LETTER S ,bfSMALL ,bCAPITAL LETTER H WITH HOOK,dREVERSED OPEN E,dSCRIPT G,",
   "dL WITH BELT,dSMALL CAPITAL I,bLETTER SMALL CAPITAL Q,bCAPITAL LETTER TURNED K,eT,",
   "dJ WITH CROSSED-TAIL,dCHI,dBETA,bcSMALL ,bCAPITAL LETTER OMEGA,bcSMALL ,",
   "bCAPITAL LETTER U WITH STROKE,beSMALL ,bCAPITAL LETTER GLOTTAL A,bdSMALL ,",
   "bCAPITAL LETTER GLOTTAL I,bdSMALL ,bCAPITAL LETTER GLOTTAL U,bdSMALL ,",
   "bCAPITAL LETTER OLD POLISH O,beSMALL ,bCAPITAL LETTER ANGLICANA W,bdSMALL ,",
   "bCAPITAL LETTER C WITH PALATAL HOOK,dbS WITH ,dbZ WITH PALATAL ,dD WITH SHORT STROKE OVERLAY,",
   "bgSMALL ,beCAPITAL LETTER S ,bgSMALL ,6bCAPITAL LETTER CLOSED INSULAR G,beSMALL ,",
   "2dDOUBLE THORN,2eWYNN,bCAPITAL LETTER MIDDLE SCOTS S,beSMALL ,bbCAPITAL LETTER SIGMOID ,",
   "bdSMALL ,19aMODIFIER LETTER CAPITAL C,dF,dQ,aLATIN CAPITAL LETTER REVERSED HALF H,beSMALL ,",
   "bEPIGRAPHIC LETTER SIDEWAYS I,aMODIFIER LETTER CAPITAL H WITH STROKE,cSMALL LIGATURE OE,",
   "aLATIN LETTER SMALL CAPITAL TURNED M,bEPIGRAPHIC LETTER REVERSED F,eP,dINVERTED M,dI LONGA,",
   "dARCHAIC M,aSYLOTI NAGRI LETTER A,dI,cSIGN DVISVARA,cLETTER U,dE,dO,cSIGN HASANTA,cLETTER KO,",
   "dKHO,dGO,dGHO,cSIGN ANUSVARA,cLETTER CO,dCHO,dJO,dJHO,dTTO,dTTHO,dDDO,dDDHO,dTO,dTHO,dDO,dDHO,",
   "dNO,dPO,dPHO,dBO,dBHO,dMO,dRO,dLO,dRRO,dSO,dHO,cVOWEL SIGN A,eI,eU,eE,eOO,cPOETRY MARK-1,e2,",
   "e3,e4,cSIGN ALTERNATE HASANTA,4aNORTH INDIC FRACTION ONE QUARTER,eHALF,dTHREE QUARTERS,",
   "dONE SIXTEENTH,eEIGHTH,dTHREE SIXTEENTHS,cQUARTER MARK,cbPLACEHOLDER ,cbRUPEE ,cbQUANTITY ,",
   "7aPHAGS-PA LETTER KA,dKHA,dGA,dNGA,dCA,dCHA,dJA,dNYA,dTA,dTHA,dDA,dNA,dPA,dPHA,dBA,dMA,dTSA,",
   "dTSHA,dDZA,dWA,dZHA,dZA,dSMALL A,dYA,dRA,dLA,dSHA,dSA,dHA,dA,dI,dU,dE,dO,dQA,dXA,dFA,dGGA,dEE,",
   "cSUBJOINED LETTER WA,eYA,cLETTER TTA,dTTHA,dDDA,dNNA,dALTERNATE YA,dVOICELESS SHA,dVOICED HA,",
   "dASPIRATED FA,cSUBJOINED LETTER RA,ccSUPERFIXED ,cLETTER CANDRABINDU,cSINGLE HEAD MARK,",
   "ccDOUBLE ,cMARK SHAD,dbDOUBLE ,9aSAURASHTRA SIGN ANUSVARA,cVISARGA,bLETTER A,cAA,cI,cII,cU,",
   "cUU,cVOCALIC R,dRR,dL,dLL,cE,cEE,cAI,cO,cOO,cAU,cKA,cKHA,cGA,cGHA,cNGA,cCA,cCHA,cJA,cJHA,cNYA,",
   "cTTA,cTTHA,cDDA,cDDHA,cNNA,cTA,cTHA,cDA,cDHA,cNA,cPA,cPHA,cBA,cBHA,cMA,cYA,cRA,cLA,cVA,cSHA,",
   "cSSA,cSA,cHA,cLLA,bCONSONANT SIGN HAARU,bVOWEL SIGN AA,dI,dII,dU,dUU,dVOCALIC R,eRR,eL,eLL,dE,",
   "dEE,dAI,dO,dOO,dAU,bSIGN VIRAMA,cCANDRABINDU,9bDANDA,bbDOUBLE ,bDIGIT ZERO,cONE,cTWO,cTHREE,",
   "cFOUR,cFIVE,cSIX,cSEVEN,cEIGHT,cNINE,7aCOMBINING DEVANAGARI DIGIT ZERO,dONE,dTWO,dTHREE,dFOUR,",
   "dFIVE,dSIX,dSEVEN,dEIGHT,dNINE,cLETTER A,dU,dKA,dNA,dPA,dRA,dVI,cSIGN AVAGRAHA,",
   "aDEVANAGARI SIGN SPACING CANDRABINDU,cCANDRABINDU VIRAMA,ccDOUBLE ,cCANDRABINDU TWO,dTHREE,",
   "dAVAGRAHA,cPUSHPIKA,bGAP FILLER,bCARET,bHEADSTROKE,bSIGN SIDDHAM,bJAIN OM,bLETTER AY,",
   "bbVOWEL SIGN ,aKAYAH LI DIGIT ZERO,dONE,dTWO,dTHREE,dFOUR,dFIVE,dSIX,dSEVEN,dEIGHT,dNINE,",
   "cLETTER KA,dKHA,dGA,dNGA,dSA,dSHA,dZA,dNYA,dTA,dHTA,dNA,dPA,dPHA,dMA,dDA,dBA,dRA,dYA,dLA,dWA,",
   "dTHA,dHA,dVA,dCA,dA,dOE,dI,dOO,cVOWEL UE,dE,dU,dEE,dO,cTONE PLOPHU,dCALYA,dCALYA PLOPHU,",
   "cSIGN CWI,dSHYA,aREJANG LETTER KA,cGA,cNGA,cTA,cDA,cNA,cPA,cBA,cMA,cCA,cJA,cNYA,cSA,cRA,cLA,",
   "cYA,cWA,cHA,cMBA,cNGGA,cNDA,cNYJA,cA,bVOWEL SIGN I,dU,dE,dAI,dO,dAU,dEU,dEA,",
   "bCONSONANT SIGN NG,dN,dR,dH,bVIRAMA,CbSECTION MARK,aHANGUL CHOSEONG TIKEUT-MIEUM,dPIEUP,dSIOS,",
   "dCIEUC,cRIEUL-KIYEOK,dSSANGKIYEOK,dTIKEUT,dSSANGTIKEUT,dMIEUM,dPIEUP,dSSANGPIEUP,",
   "dKAPYEOUNPIEUP,dSIOS,dCIEUC,dKHIEUKH,cMIEUM-KIYEOK,dTIKEUT,dSIOS,cPIEUP-SIOS-THIEUTH,dKHIEUKH,",
   "dHIEUH,cSSANGSIOS-PIEUP,cIEUNG-RIEUL,dHIEUH,cbSSANGCIEUC-,cSSANGTHIEUTH,cPHIEUPH-HIEUH,",
   "cHIEUH-SIOS,cSSANGYEORINHIEUH,4aJAVANESE SIGN PANYANGGA,cCECAK,cLAYAR,cWIGNYAN,bLETTER A,",
   "cI KAWI,cI,cII,cU,cPA CEREK,cNGA LELET,dLELET RASWADI,cE,cAI,cO,cKA,cKA SASAK,dMURDA,cGA,",
   "cGA MURDA,cNGA,cCA,cCA MURDA,cJA,cNYA MURDA,cJA MAHAPRANA,cNYA,cTTA,cTTA MAHAPRANA,cDDA,",
   "cDDA MAHAPRANA,cNA MURDA,cTA,cTA MURDA,cDA,cDA MAHAPRANA,cNA,cPA,cPA MURDA,cBA,cBA MURDA,cMA,",
   "cYA,cRA,cRA AGUNG,cLA,cWA,cSA MURDA,dMAHAPRANA,cSA,cHA,bSIGN CECAK TELU,bVOWEL SIGN TARUNG,",
   "dTOLONG,dWULU,dWULU MELIK,dSUKU,dSUKU MENDUT,dTALING,dDIRGA MURE,dPEPET,bCONSONANT SIGN KERET,",
   "dPENGKAL,dCAKRA,bPANGKON,bLEFT RERENGGAN,bbRIGHT ,bPADA ANDAP,cMADYA,cLUHUR,cWINDU,cPANGKAT,",
   "cLINGSA,cLUNGSI,cADEG,cbADEG ,cPISELEH,bcTURNED ,2bPANGRANGKEP,bDIGIT ZERO,cONE,cTWO,cTHREE,",
   "cFOUR,cFIVE,cSIX,cSEVEN,cEIGHT,cNINE,5bPADA TIRTA TUMETES,cISEN-ISEN,aMYANMAR LETTER SHAN GHA,",
   "dCHA,dJHA,dNNA,dBHA,bSIGN SHAN SAW,bMODIFIER LETTER SHAN REDUPLICATION,bLETTER TAI LAING NYA,",
   "eFA,eGA,eGHA,eJA,eJHA,eDDA,eDDHA,eNNA,bTAI LAING DIGIT ZERO,eONE,eTWO,eTHREE,eFOUR,eFIVE,eSIX,",
   "eSEVEN,eEIGHT,eNINE,bLETTER TAI LAING LLA,eDA,eDHA,eBA,eBHA,2aCHAM LETTER A,cI,cU,cE,cAI,cO,",
   "cKA,cKHA,cGA,cGHA,cNGUE,cNGA,cCHA,cCHHA,cJA,cJHA,cNHUE,cNHA,cNHJA,cTA,cTHA,cDA,cDHA,cNUE,cNA,",
   "cDDA,cPA,cPPA,cPHA,cBA,cBHA,cMUE,cMA,cBBA,cYA,cRA,cLA,cVA,cSSA,cSA,cHA,bVOWEL SIGN AA,dI,dII,",
   "dEI,dU,dOE,dO,dAI,dAU,dUE,bCONSONANT SIGN YA,dRA,dLA,dWA,AbLETTER FINAL K,dG,dNG,",
   "bcCONSONANT SIGN ,bLETTER FINAL CH,dT,dN,dP,dY,dR,dL,dSS,bCONSONANT SIGN FINAL M,eH,",
   "3bDIGIT ZERO,cONE,cTWO,cTHREE,cFOUR,cFIVE,cSIX,cSEVEN,cEIGHT,cNINE,3bPUNCTUATION SPIRAL,",
   "cDANDA,cbDOUBLE ,cbTRIPLE ,aMYANMAR LETTER KHAMTI GA,dCA,dCHA,dJA,dJHA,dNYA,dTTA,dTTHA,dDDA,",
   "dDDHA,dDHA,dNA,dSA,dHA,dHHA,0dLLA,dFA,bMODIFIER LETTER KHAMTI REDUPLICATION,bLETTER KHAMTI XA,",
   "dZA,dRA,bLOGOGRAM KHAMTI OAY,dQN,dHM,bSYMBOL AITON EXCLAMATION,dONE,dTWO,bLETTER AITON RA,",
   "bSIGN PAO KAREN TONE,cTAI LAING TONE-2,f5,bLETTER SHWE PALAUNG CHA,eSHA,",
   "aTAI VIET LETTER LOW KO,dbHIGH ,dLOW KHO,dbHIGH ,dLOW KHHO,dbHIGH ,dLOW GO,dbHIGH ,dLOW NGO,",
   "dbHIGH ,dLOW CO,dbHIGH ,dLOW CHO,dbHIGH ,dLOW SO,dbHIGH ,dLOW NYO,dbHIGH ,dLOW DO,dbHIGH ,",
   "dLOW TO,dbHIGH ,dLOW THO,dbHIGH ,dLOW NO,dbHIGH ,dLOW BO,dbHIGH ,dLOW PO,dbHIGH ,dLOW PHO,",
   "dbHIGH ,dLOW FO,dbHIGH ,dLOW MO,dbHIGH ,dLOW YO,dbHIGH ,dLOW RO,dbHIGH ,dLOW LO,dbHIGH ,",
   "dLOW VO,dbHIGH ,dLOW HO,dbHIGH ,dLOW O,dbHIGH ,cMAI KANG,cVOWEL AA,dI,dUE,dU,dE,dO,cMAI KHIT,",
   "cVOWEL IA,dUEA,dUA,dAUE,dAY,dAN,dAM,cTONE MAI EK,eNUENG,eTHO,eSONG,19cSYMBOL KON,dNUENG,dSAM,",
   "dHO HOI,dKOI KOI,aMEETEI MAYEK LETTER E,dO,dCHA,dNYA,dTTA,dTTHA,dDDA,dDDHA,dNNA,dSHA,dSSA,",
   "cVOWEL SIGN II,eUU,eAAI,eAU,eAAU,cCHEIKHAN,cAHANG KHUDAM,cANJI,cSYLLABLE REPETITION MARK,",
   "ccWORD ,cVOWEL SIGN VISARGA,cVIRAMA,BaETHIOPIC SYLLABLE TTHU,cTTHI,cTTHAA,cTTHEE,cTTHE,cTTHO,",
   "3cDDHU,cDDHI,cDDHAA,cDDHEE,cDDHE,cDDHO,3cDZU,cDZI,cDZAA,cDZEE,cDZE,cDZO,AcCCHHA,cCCHHU,cCCHHI,",
   "cCCHHAA,cCCHHEE,cCCHHE,cCCHHO,2cBBA,cBBU,cBBI,cBBAA,cBBEE,cBBE,cBBO,",
   "2aLATIN SMALL LETTER BARRED ALPHA,dA REVERSED-SCHWA,dBLACKLETTER E,dbBARRED ,dE WITH FLOURISH,",
   "dLENIS F,dSCRIPT G WITH CROSSED-TAIL,dL WITH INVERTED LAZY S,fDOUBLE MIDDLE TILDE,",
   "fMIDDLE RING,dM WITH CROSSED-TAIL,ddN ,ddENG ,dBLACKLETTER O,eO WITH STROKE,ddOPEN ,",
   "dINVERTED OE,dTURNED OE WITH STROKE,gbHORIZONTAL ,eO OPEN-O,gO WITH STROKE,dSTIRRUP R,",
   "bLETTER SMALL CAPITAL R WITH RIGHT LEG,bSMALL LETTER R WITHOUT HANDLE,dDOUBLE R,",
   "dR WITH CROSSED-TAIL,deDOUBLE ,dSCRIPT R,eR WITH RING,dBASELINE ESH,dU WITH SHORT RIGHT LEG,",
   "eeBAR ,dUI,dbTURNED ,dU WITH LEFT HOOK,dCHI,dCHI WITH LOW RIGHT RING,gLEFT SERIF,",
   "dX WITH LOW RIGHT RING,fLONG LEFT LEG,hLEG AND LOW RIGHT RING,iWITH SERIF,",
   "dY WITH SHORT RIGHT LEG,aMODIFIER BREVE WITH INVERTED BREVE,bLETTER SMALL HENG,",
   "dL WITH INVERTED LAZY S,fMIDDLE TILDE,dU WITH LEFT HOOK,aLATIN SMALL LETTER SAKHA YAT,",
   "dIOTIFIED E,dOPEN OE,dUO,dINVERTED ALPHA,aGREEK LETTER SMALL CAPITAL OMEGA,",
   "aLATIN SMALL LETTER DZ DIGRAPH WITH RETROFLEX HOOK,deTS ,dTURNED R WITH MIDDLE TILDE,",
   "aMODIFIER LETTER SMALL TURNED W,cLEFT TACK,cbRIGHT ,5aCHEROKEE SMALL LETTER A,dE,dI,dO,dU,dV,",
   "dGA,dKA,dGE,dGI,dGO,dGU,dGV,dHA,dHE,dHI,dHO,dHU,dHV,dLA,dLE,dLI,dLO,dLU,dLV,dMA,dME,dMI,dMO,",
   "dMU,dNA,dHNA,dNAH,dNE,dNI,dNO,dNU,dNV,dQUA,dQUE,dQUI,dQUO,dQUU,dQUV,dSA,dS,dSE,dSI,dSO,dSU,",
   "dSV,dDA,dTA,dDE,dTE,dDI,dTI,dDO,dDU,dDV,dDLA,dTLA,dTLE,dTLI,dTLO,dTLU,dTLV,dTSA,dTSE,dTSI,",
   "dTSO,dTSU,dTSV,dWA,dWE,dWI,dWO,dWU,dWV,dYA,aMEETEI MAYEK LETTER KOK,dSAM,dLAI,dMIT,dPA,dNA,",
   "dCHIL,dTIL,dKHOU,dNGOU,dTHOU,dWAI,dYANG,dHUK,dUN,dI,dPHAM,dATIYA,dGOK,dJHAM,dRAI,dBA,dJIL,",
   "dDIL,dGHOU,dDHOU,dBHAM,dKOK LONSUM,dbLAI ,dbMIT ,dbPA ,dbNA ,dbTIL ,dbNGOU ,dbI ,",
   "cVOWEL SIGN ONAP,eINAP,eANAP,eYENAP,eSOUNAP,eUNAP,eCHEINAP,eNUNG,cCHEIKHEI,cLUM IYEK,cbAPUN ,",
   "3cDIGIT ZERO,dONE,dTWO,dTHREE,dFOUR,dFIVE,dSIX,dSEVEN,dEIGHT,dNINE,",
   "2BB7aHANGUL JUNGSEONG O-YEO,dO-I,cYO-A,dAE,dEO,cU-YEO,dI-I,cYU-AE,dO,cEU-A,dEO,dE,dO,cbI-YA-,",
   "dYAE,dYEO,dYE,dO-I,dYO,dYU,dI,cARAEA-A,dE,5bJONGSEONG NIEUN-RIEUL,dCHIEUCH,cSSANGTIKEUT,",
   "cSSANGTIKEUT-PIEUP,cbTIKEUT-,dSIOS,dSIOS-KIYEOK,dCIEUC,dCHIEUCH,dTHIEUTH,cRIEUL-SSANGKIYEOK,",
   "dKIYEOK-HIEUH,cSSANGRIEUL-KHIEUKH,cRIEUL-MIEUM-HIEUH,dPIEUP-TIKEUT,ePHIEUPH,dYESIEUNG,",
   "dYEORINHIEUH-HIEUH,cKAPYEOUNRIEUL,cMIEUM-NIEUN,dSSANGNIEUN,cSSANGMIEUM,cMIEUM-PIEUP-SIOS,",
   "dCIEUC,cPIEUP-TIKEUT,dRIEUL-PHIEUPH,dMIEUM,cSSANGPIEUP,cPIEUP-SIOS-TIKEUT,dCIEUC,dCHIEUCH,",
   "cSIOS-MIEUM,dKAPYEOUNPIEUP,cSSANGSIOS-KIYEOK,dTIKEUT,cSIOS-PANSIOS,dCIEUC,dCHIEUCH,dTHIEUTH,",
   "dHIEUH,cPANSIOS-PIEUP,dKAPYEOUNPIEUP,cYESIEUNG-MIEUM,dHIEUH,cCIEUC-PIEUP,dSSANGPIEUP,",
   "cSSANGCIEUC,cPHIEUPH-SIOS,dTHIEUTH,2105aCJK COMPATIBILITY IDEOGRAPH-F900,dF901,dF902,dF903,",
   "dF904,dF905,dF906,dF907,dF908,dF909,dF90A,dF90B,dF90C,dF90D,dF90E,dF90F,dF910,dF911,dF912,",
   "dF913,dF914,dF915,dF916,dF917,dF918,dF919,dF91A,dF91B,dF91C,dF91D,dF91E,dF91F,dF920,dF921,",
   "dF922,dF923,dF924,dF925,dF926,dF927,dF928,dF929,dF92A,dF92B,dF92C,dF92D,dF92E,dF92F,dF930,",
   "dF931,dF932,dF933,dF934,dF935,dF936,dF937,dF938,dF939,dF93A,dF93B,dF93C,dF93D,dF93E,dF93F,",
   "dF940,dF941,dF942,dF943,dF944,dF945,dF946,dF947,dF948,dF949,dF94A,dF94B,dF94C,dF94D,dF94E,",
   "dF94F,dF950,dF951,dF952,dF953,dF954,dF955,dF956,dF957,dF958,dF959,dF95A,dF95B,dF95C,dF95D,",
   "dF95E,dF95F,dF960,dF961,dF962,dF963,dF964,dF965,dF966,dF967,dF968,dF969,dF96A,dF96B,dF96C,",
   "dF96D,dF96E,dF96F,dF970,dF971,dF972,dF973,dF974,dF975,dF976,dF977,dF978,dF979,dF97A,dF97B,",
   "dF97C,dF97D,dF97E,dF97F,dF980,dF981,dF982,dF983,dF984,dF985,dF986,dF987,dF988,dF989,dF98A,",
   "dF98B,dF98C,dF98D,dF98E,dF98F,dF990,dF991,dF992,dF993,dF994,dF995,dF996,dF997,dF998,dF999,",
   "dF99A,dF99B,dF99C,dF99D,dF99E,dF99F,dF9A0,dF9A1,dF9A2,dF9A3,dF9A4,dF9A5,dF9A6,dF9A7,dF9A8,",
   "dF9A9,dF9AA,dF9AB,dF9AC,dF9AD,dF9AE,dF9AF,dF9B0,dF9B1,dF9B2,dF9B3,dF9B4,dF9B5,dF9B6,dF9B7,",
   "dF9B8,dF9B9,dF9BA,dF9BB,dF9BC,dF9BD,dF9BE,dF9BF,dF9C0,dF9C1,dF9C2,dF9C3,dF9C4,dF9C5,dF9C6,",
   "dF9C7,dF9C8,dF9C9,dF9CA,dF9CB,dF9CC,dF9CD,dF9CE,dF9CF,dF9D0,dF9D1,dF9D2,dF9D3,dF9D4,dF9D5,",
   "dF9D6,dF9D7,dF9D8,dF9D9,dF9DA,dF9DB,dF9DC,dF9DD,dF9DE,dF9DF,dF9E0,dF9E1,dF9E2,dF9E3,dF9E4,",
   "dF9E5,dF9E6,dF9E7,dF9E8,dF9E9,dF9EA,dF9EB,dF9EC,dF9ED,dF9EE,dF9EF,dF9F0,dF9F1,dF9F2,dF9F3,",
   "dF9F4,dF9F5,dF9F6,dF9F7,dF9F8,dF9F9,dF9FA,dF9FB,dF9FC,dF9FD,dF9FE,dF9FF,dFA00,dFA01,dFA02,",
   "dFA03,dFA04,dFA05,dFA06,dFA07,dFA08,dFA09,dFA0A,dFA0B,dFA0C,dFA0D,dFA0E,dFA0F,dFA10,dFA11,",
   "dFA12,dFA13,dFA14,dFA15,dFA16,dFA17,dFA18,dFA19,dFA1A,dFA1B,dFA1C,dFA1D,dFA1E,dFA1F,dFA20,",
   "dFA21,dFA22,dFA23,dFA24,dFA25,dFA26,dFA27,dFA28,dFA29,dFA2A,dFA2B,dFA2C,dFA2D,dFA2E,dFA2F,",
   "dFA30,dFA31,dFA32,dFA33,dFA34,dFA35,dFA36,dFA37,dFA38,dFA39,dFA3A,dFA3B,dFA3C,dFA3D,dFA3E,",
   "dFA3F,dFA40,dFA41,dFA42,dFA43,dFA44,dFA45,dFA46,dFA47,dFA48,dFA49,dFA4A,dFA4B,dFA4C,dFA4D,",
   "dFA4E,dFA4F,dFA50,dFA51,dFA52,dFA53,dFA54,dFA55,dFA56,dFA57,dFA58,dFA59,dFA5A,dFA5B,dFA5C,",
   "dFA5D,dFA5E,dFA5F,dFA60,dFA61,dFA62,dFA63,dFA64,dFA65,dFA66,dFA67,dFA68,dFA69,dFA6A,dFA6B,",
   "dFA6C,dFA6D,3dFA70,dFA71,dFA72,dFA73,dFA74,dFA75,dFA76,dFA77,dFA78,dFA79,dFA7A,dFA7B,dFA7C,",
   "dFA7D,dFA7E,dFA7F,dFA80,dFA81,dFA82,dFA83,dFA84,dFA85,dFA86,dFA87,dFA88,dFA89,dFA8A,dFA8B,",
   "dFA8C,dFA8D,dFA8E,dFA8F,dFA90,dFA91,dFA92,dFA93,dFA94,dFA95,dFA96,dFA97,dFA98,dFA99,dFA9A,",
   "dFA9B,dFA9C,dFA9D,dFA9E,dFA9F,dFAA0,dFAA1,dFAA2,dFAA3,dFAA4,dFAA5,dFAA6,dFAA7,dFAA8,dFAA9,",
   "dFAAA,dFAAB,dFAAC,dFAAD,dFAAE,dFAAF,dFAB0,dFAB1,dFAB2,dFAB3,dFAB4,dFAB5,dFAB6,dFAB7,dFAB8,",
   "dFAB9,dFABA,dFABB,dFABC,dFABD,dFABE,dFABF,dFAC0,dFAC1,dFAC2,dFAC3,dFAC4,dFAC5,dFAC6,dFAC7,",
   "dFAC8,dFAC9,dFACA,dFACB,dFACC,dFACD,dFACE,dFACF,dFAD0,dFAD1,dFAD2,dFAD3,dFAD4,dFAD5,dFAD6,",
   "dFAD7,dFAD8,dFAD9,27aLATIN SMALL LIGATURE FF,dFI,dFL,dFFI,dFFL,dLONG S T,dST,",
   "DaARMENIAN SMALL LIGATURE MEN NOW,eECH,eINI,dVEW NOW,dMEN XEH,6aHEBREW LETTER YOD WITH HIRIQ,",
   "bPOINT JUDEO-SPANISH VARIKA,bLIGATURE YIDDISH YOD YOD PATAH,bLETTER ALTERNATIVE AYIN,",
   "cWIDE ALEF,dDALET,dHE,dKAF,dLAMED,dFINAL MEM,dRESH,dTAV,cALTERNATIVE PLUS SIGN,",
   "cSHIN WITH SHIN DOT,ebSIN ,ebDAGESH AND SHIN ,gbSIN ,cALEF WITH PATAH,eQAMATS,eMAPIQ,",
   "cBET WITH DAGESH,ccGIMEL ,ccDALET ,cHE WITH MAPIQ,cVAV WITH DAGESH,ccZAYIN ,2ccTET ,ccYOD ,",
   "ccFINAL KAF ,cd,ccLAMED ,2ccMEM ,2ccNUN ,ccSAMEKH ,2ccFINAL PE ,cd,2ccTSADI ,ccQOF ,ccRESH ,",
   "ccSHIN ,ccTAV ,cVAV WITH HOLAM,cBET WITH RAFE,ccKAF ,ccPE ,bLIGATURE ALEF LAMED,",
   "aARABIC LETTER ALEF WASLA ISOLATED FORM,ebFINAL ,cbBEEH ISOLATED ,dbFINAL ,dbINITIAL ,",
   "dbMEDIAL ,cbPEH ISOLATED ,dbFINAL ,dbINITIAL ,dbMEDIAL ,cbBEHEH ISOLATED ,dbFINAL ,dbINITIAL ,",
   "dbMEDIAL ,cbTTEHEH ISOLATED ,dbFINAL ,dbINITIAL ,dbMEDIAL ,cbTEHEH ISOLATED ,dbFINAL ,",
   "dbINITIAL ,dbMEDIAL ,cbTTEH ISOLATED ,dbFINAL ,dbINITIAL ,dbMEDIAL ,cbVEH ISOLATED ,dbFINAL ,",
   "dbINITIAL ,dbMEDIAL ,cbPEHEH ISOLATED ,dbFINAL ,dbINITIAL ,dbMEDIAL ,cbDYEH ISOLATED ,",
   "dbFINAL ,dbINITIAL ,dbMEDIAL ,cbNYEH ISOLATED ,dbFINAL ,dbINITIAL ,dbMEDIAL ,",
   "cbTCHEH ISOLATED ,dbFINAL ,dbINITIAL ,dbMEDIAL ,cbTCHEHEH ISOLATED ,dbFINAL ,dbINITIAL ,",
   "dbMEDIAL ,cbDDAHAL ISOLATED ,dbFINAL ,cbDAHAL ISOLATED ,dbFINAL ,cbDUL ISOLATED ,dbFINAL ,",
   "cbDDAL ISOLATED ,dbFINAL ,cbJEH ISOLATED ,dbFINAL ,cbRREH ISOLATED ,dbFINAL ,",
   "cbKEHEH ISOLATED ,dbFINAL ,dbINITIAL ,dbMEDIAL ,cbGAF ISOLATED ,dbFINAL ,dbINITIAL ,dbMEDIAL ,",
   "cbGUEH ISOLATED ,dbFINAL ,dbINITIAL ,dbMEDIAL ,cbNGOEH ISOLATED ,dbFINAL ,dbINITIAL ,",
   "dbMEDIAL ,cbNOON GHUNNA ISOLATED ,ebFINAL ,cbRNOON ISOLATED ,dbFINAL ,dbINITIAL ,dbMEDIAL ,",
   "cbHEH WITH YEH ABOVE ISOLATED ,gbFINAL ,dbGOAL ISOLATED ,ebFINAL ,ebINITIAL ,ebMEDIAL ,",
   "dbDOACHASHMEE ISOLATED ,ebFINAL ,ebINITIAL ,ebMEDIAL ,cbYEH BARREE ISOLATED ,ebFINAL ,",
   "ebWITH HAMZA ABOVE ISOLATED ,hbFINAL ,bSYMBOL DOT ABOVE,dBELOW,cTWO DOTS ABOVE,eBELOW,",
   "cTHREE DOTS ABOVE,eBELOW,ePOINTING DOWNWARDS ABOVE,gBELOW,cFOUR DOTS ABOVE,eBELOW,",
   "cbDOUBLE VERTICAL BAR ,cTWO DOTS VERTICALLY ABOVE,fBELOW,cRING,cSMALL TAH ABOVE,eBELOW,",
   "cWASLA ABOVE,11bLETTER NG ISOLATED FORM,dbFINAL ,dbINITIAL ,dbMEDIAL ,cbU ISOLATED ,dbFINAL ,",
   "cbOE ISOLATED ,dbFINAL ,cbYU ISOLATED ,dbFINAL ,cbU WITH HAMZA ABOVE ISOLATED ,ccVE ,dbFINAL ,",
   "cbKIRGHIZ OE ISOLATED ,ebFINAL ,dbYU ISOLATED ,ebFINAL ,cbE ISOLATED ,dbFINAL ,dbINITIAL ,",
   "dbMEDIAL ,cbUIGHUR KAZAKH KIRGHIZ ALEF MAKSURA INITIAL ,hbMEDIAL ,",
   "bbLIGATURE YEH WITH HAMZA ABOVE WITH ALEF ISOLATED ,ibFINAL ,hbAE ISOLATED ,ibFINAL ,",
   "hbWAW ISOLATED ,ibFINAL ,hbU ISOLATED ,ibFINAL ,hbOE ISOLATED ,ibFINAL ,hbYU ISOLATED ,",
   "ibFINAL ,hbE ISOLATED ,ibFINAL ,ibINITIAL ,",
   "cbUIGHUR KIRGHIZ YEH WITH HAMZA ABOVE WITH ALEF MAKSURA ISOLATED ,lbFINAL ,lbINITIAL ,",
   "bbLETTER FARSI YEH ISOLATED ,ebFINAL ,ebINITIAL ,ebMEDIAL ,",
   "bbLIGATURE YEH WITH HAMZA ABOVE WITH JEEM ISOLATED ,hcHAH ,hcMEEM ,hcALEF MAKSURA ,hcYEH ,",
   "ccBEH WITH JEEM ,ecHAH ,ecKHAH ,ecMEEM ,ecALEF MAKSURA ,ecYEH ,ccTEH WITH JEEM ,ecHAH ,",
   "ecKHAH ,ecMEEM ,ecALEF MAKSURA ,ecYEH ,ccTHEH WITH JEEM ,ecMEEM ,ecALEF MAKSURA ,ecYEH ,",
   "ccJEEM WITH HAH ,ecMEEM ,ccHAH WITH JEEM ,ecMEEM ,ccKHAH WITH JEEM ,ecHAH ,ecMEEM ,",
   "ccSEEN WITH JEEM ,ecHAH ,ecKHAH ,ecMEEM ,ccSAD WITH HAH ,ecMEEM ,ccDAD WITH JEEM ,ecHAH ,",
   "ecKHAH ,ecMEEM ,ccTAH WITH HAH ,ecMEEM ,ceZAH ,ccAIN WITH JEEM ,ecMEEM ,ccGHAIN WITH JEEM ,",
   "ecMEEM ,ccFEH WITH JEEM ,ecHAH ,ecKHAH ,ecMEEM ,ecALEF MAKSURA ,ecYEH ,ccQAF WITH HAH ,",
   "ecMEEM ,ecALEF MAKSURA ,ecYEH ,ccKAF WITH ALEF ,ecJEEM ,ecHAH ,ecKHAH ,ecLAM ,ecMEEM ,",
   "ecALEF MAKSURA ,ecYEH ,ccLAM WITH JEEM ,ecHAH ,ecKHAH ,ecMEEM ,ecALEF MAKSURA ,ecYEH ,",
   "ccMEEM WITH JEEM ,ecHAH ,ecKHAH ,ecMEEM ,ecALEF MAKSURA ,ecYEH ,ccNOON WITH JEEM ,ecHAH ,",
   "ecKHAH ,ecMEEM ,ecALEF MAKSURA ,ecYEH ,ccHEH WITH JEEM ,ecMEEM ,ecALEF MAKSURA ,ecYEH ,",
   "ccYEH WITH JEEM ,ecHAH ,ecKHAH ,ecMEEM ,ecALEF MAKSURA ,ecYEH ,ccTHAL WITH SUPERSCRIPT ALEF ,",
   "cfREH ,cfALEF MAKSURA ,ccSHADDA WITH DAMMATAN ,ecKASRATAN ,ecFATHA ,ecDAMMA ,ecKASRA ,",
   "ecSUPERSCRIPT ALEF ,cbYEH WITH HAMZA ABOVE WITH REH FINAL ,hcZAIN ,hcMEEM ,hcNOON ,",
   "hcALEF MAKSURA ,hcYEH ,ccBEH WITH REH ,ecZAIN ,ecMEEM ,ecNOON ,ecALEF MAKSURA ,ecYEH ,",
   "ccTEH WITH REH ,ecZAIN ,ecMEEM ,ecNOON ,ecALEF MAKSURA ,ecYEH ,ccTHEH WITH REH ,ecZAIN ,",
   "ecMEEM ,ecNOON ,ecALEF MAKSURA ,ecYEH ,ccFEH WITH ALEF MAKSURA ,ecYEH ,",
   "ccQAF WITH ALEF MAKSURA ,ecYEH ,ccKAF WITH ALEF ,ecLAM ,ecMEEM ,ecALEF MAKSURA ,ecYEH ,",
   "ccLAM WITH MEEM ,ecALEF MAKSURA ,ecYEH ,ccMEEM WITH ALEF ,ecMEEM ,ccNOON WITH REH ,ecZAIN ,",
   "ecMEEM ,ecNOON ,ecALEF MAKSURA ,ecYEH ,ccALEF MAKSURA WITH SUPERSCRIPT ALEF ,ccYEH WITH REH ,",
   "ecZAIN ,ecMEEM ,ecNOON ,ecALEF MAKSURA ,ecYEH ,ebHAMZA ABOVE WITH JEEM INITIAL ,hcHAH ,",
   "hcKHAH ,hcMEEM ,hcHEH ,ccBEH WITH JEEM ,ecHAH ,ecKHAH ,ecMEEM ,ecHEH ,ccTEH WITH JEEM ,ecHAH ,",
   "ecKHAH ,ecMEEM ,ecHEH ,ccTHEH WITH MEEM ,ccJEEM WITH HAH ,ecMEEM ,ccHAH WITH JEEM ,ecMEEM ,",
   "ccKHAH WITH JEEM ,ecMEEM ,ccSEEN WITH JEEM ,ecHAH ,ecKHAH ,ecMEEM ,ccSAD WITH HAH ,ecKHAH ,",
   "ecMEEM ,ccDAD WITH JEEM ,ecHAH ,ecKHAH ,ecMEEM ,ccTAH WITH HAH ,ccZAH WITH MEEM ,",
   "ccAIN WITH JEEM ,ecMEEM ,ccGHAIN WITH JEEM ,ecMEEM ,ccFEH WITH JEEM ,ecHAH ,ecKHAH ,ecMEEM ,",
   "ccQAF WITH HAH ,ecMEEM ,ccKAF WITH JEEM ,ecHAH ,ecKHAH ,ecLAM ,ecMEEM ,ccLAM WITH JEEM ,",
   "ecHAH ,ecKHAH ,ecMEEM ,ecHEH ,ccMEEM WITH JEEM ,ecHAH ,ecKHAH ,ecMEEM ,ccNOON WITH JEEM ,",
   "ecHAH ,ecKHAH ,ecMEEM ,ecHEH ,ccHEH WITH JEEM ,ecMEEM ,ecSUPERSCRIPT ALEF ,ccYEH WITH JEEM ,",
   "ecHAH ,ecKHAH ,ecMEEM ,ecHEH ,ebHAMZA ABOVE WITH MEEM MEDIAL ,hcHEH ,ccBEH WITH MEEM ,ecHEH ,",
   "ccTEH WITH MEEM ,ecHEH ,ccTHEH WITH MEEM ,ecHEH ,ccSEEN WITH MEEM ,ecHEH ,ccSHEEN WITH MEEM ,",
   "ecHEH ,ccKAF WITH LAM ,ecMEEM ,ceLAM ,ceNOON ,ecHEH ,ccYEH WITH MEEM ,ecHEH ,",
   "ccSHADDA WITH FATHA ,ecDAMMA ,ecKASRA ,cbTAH WITH ALEF MAKSURA ISOLATED ,ecYEH ,",
   "ccAIN WITH ALEF MAKSURA ,ecYEH ,ccGHAIN WITH ALEF MAKSURA ,ecYEH ,ccSEEN WITH ALEF MAKSURA ,",
   "ecYEH ,ccSHEEN WITH ALEF MAKSURA ,ecYEH ,ccHAH WITH ALEF MAKSURA ,ecYEH ,",
   "ccJEEM WITH ALEF MAKSURA ,ecYEH ,ccKHAH WITH ALEF MAKSURA ,ecYEH ,ccSAD WITH ALEF MAKSURA ,",
   "ecYEH ,ccDAD WITH ALEF MAKSURA ,ecYEH ,ccSHEEN WITH JEEM ,ecHAH ,ecKHAH ,ecMEEM ,ecREH ,",
   "ceSEEN ,ceSAD ,ceDAD ,cbTAH WITH ALEF MAKSURA FINAL ,ecYEH ,ccAIN WITH ALEF MAKSURA ,ecYEH ,",
   "ccGHAIN WITH ALEF MAKSURA ,ecYEH ,ccSEEN WITH ALEF MAKSURA ,ecYEH ,ccSHEEN WITH ALEF MAKSURA ,",
   "ecYEH ,ccHAH WITH ALEF MAKSURA ,ecYEH ,ccJEEM WITH ALEF MAKSURA ,ecYEH ,",
   "ccKHAH WITH ALEF MAKSURA ,ecYEH ,ccSAD WITH ALEF MAKSURA ,ecYEH ,ccDAD WITH ALEF MAKSURA ,",
   "ecYEH ,ccSHEEN WITH JEEM ,ecHAH ,ecKHAH ,ecMEEM ,ecREH ,ceSEEN ,ceSAD ,ceDAD ,",
   "cbSHEEN WITH JEEM INITIAL ,ecHAH ,ecKHAH ,ecMEEM ,ccSEEN WITH HEH ,ceSHEEN ,ccTAH WITH MEEM ,",
   "cbSEEN WITH JEEM MEDIAL ,ecHAH ,ecKHAH ,ccSHEEN WITH JEEM ,ecHAH ,ecKHAH ,ccTAH WITH MEEM ,",
   "ceZAH ,cbALEF WITH FATHATAN FINAL ,fbISOLATED ,aORNATE LEFT PARENTHESIS,bbRIGHT ,",
   "aARABIC LIGATURE RAHIMAHU ALLAAH,cRADI ALLAAHU ANH,eANHAA,eANHUM,eANHUMAA,eANHUNNA,",
   "cSALLALLAAHU ALAYHI WA-AALIH,cALAYHI AS-SALAAM,ccALAYHIM ,ccALAYHIMAA ,",
   "cbALAYHI AS-SALAATU WAS-,cQUDDISA SIRRAH,cSALLALLAHU ALAYHI WAAALIHEE WA-SALLAM,",
   "cALAYHAA AS-SALAAM,cTABAARAKA WA-TAAALAA,cRAHIMAHUM ALLAAH,",
   "cTEH WITH JEEM WITH MEEM INITIAL FORM,ebHAH WITH JEEM FINAL ,hbINITIAL ,gcMEEM ,eeKHAH ,",
   "ecMEEM WITH JEEM ,gcHAH ,gcKHAH ,cbJEEM WITH MEEM WITH HAH FINAL ,hbINITIAL ,",
   "cbHAH WITH MEEM WITH YEH FINAL ,gcALEF MAKSURA ,cbSEEN WITH HAH WITH JEEM INITIAL ,",
   "ecJEEM WITH HAH ,gbALEF MAKSURA FINAL ,ecMEEM WITH HAH ,hbINITIAL ,gcJEEM ,gbMEEM FINAL ,",
   "hbINITIAL ,cbSAD WITH HAH WITH HAH FINAL ,hbINITIAL ,ebMEEM WITH MEEM FINAL ,",
   "ceSHEEN WITH HAH ,hbINITIAL ,ebJEEM WITH YEH FINAL ,ecMEEM WITH KHAH ,hbINITIAL ,",
   "gbMEEM FINAL ,hbINITIAL ,cbDAD WITH HAH WITH ALEF MAKSURA FINAL ,ecKHAH WITH MEEM ,hbINITIAL ,",
   "cbTAH WITH MEEM WITH HAH FINAL ,hbINITIAL ,gcMEEM ,gbYEH FINAL ,ccAIN WITH JEEM WITH MEEM ,",
   "eeMEEM ,hbINITIAL ,gbALEF MAKSURA FINAL ,ccGHAIN WITH MEEM WITH MEEM ,gcYEH ,gcALEF MAKSURA ,",
   "ccFEH WITH KHAH WITH MEEM ,hbINITIAL ,cbQAF WITH MEEM WITH HAH FINAL ,gcMEEM ,ceLAM WITH HAH ,",
   "gcYEH ,gcALEF MAKSURA ,ebJEEM WITH JEEM INITIAL ,hbFINAL ,ecKHAH WITH MEEM ,hbINITIAL ,",
   "ebMEEM WITH HAH FINAL ,hbINITIAL ,ccMEEM WITH HAH WITH JEEM ,gcMEEM ,gbYEH FINAL ,",
   "ebJEEM WITH HAH INITIAL ,gcMEEM ,ecKHAH WITH JEEM ,gcMEEM ,3ecJEEM WITH KHAH ,",
   "ccHEH WITH MEEM WITH JEEM ,gcMEEM ,ceNOON WITH HAH ,gbALEF MAKSURA FINAL ,ecJEEM WITH MEEM ,",
   "hbINITIAL ,gbALEF MAKSURA FINAL ,ecMEEM WITH YEH ,gcALEF MAKSURA ,ccYEH WITH MEEM WITH MEEM ,",
   "hbINITIAL ,cbBEH WITH KHAH WITH YEH FINAL ,ceTEH WITH JEEM ,gcALEF MAKSURA ,ecKHAH WITH YEH ,",
   "gcALEF MAKSURA ,ecMEEM WITH YEH ,gcALEF MAKSURA ,ccJEEM WITH MEEM WITH YEH ,",
   "ecHAH WITH ALEF MAKSURA ,efMEEM ,cfSEEN WITH KHAH ,ccSAD WITH HAH WITH YEH ,cgSHEEN ,cgDAD ,",
   "ceLAM WITH JEEM ,eeMEEM ,ceYEH WITH HAH ,eeJEEM ,eeMEEM ,cgMEEM ,cgQAF ,ceNOON WITH HAH ,",
   "cbQAF WITH MEEM WITH HAH INITIAL ,ccLAM WITH HAH WITH MEEM ,cbAIN WITH MEEM WITH YEH FINAL ,",
   "cgKAF ,cbNOON WITH JEEM WITH HAH INITIAL ,cbMEEM WITH KHAH WITH YEH FINAL ,",
   "cbLAM WITH JEEM WITH MEEM INITIAL ,cbKAF WITH MEEM WITH MEEM FINAL ,ceLAM WITH JEEM ,",
   "ccNOON WITH JEEM WITH HAH ,ccJEEM WITH HAH WITH YEH ,ceHAH WITH JEEM ,cgMEEM ,",
   "ceFEH WITH MEEM ,ceBEH WITH HAH ,cbKAF WITH MEEM WITH MEEM INITIAL ,ceAIN WITH JEEM ,",
   "ceSAD WITH MEEM ,cbSEEN WITH KHAH WITH YEH FINAL ,ceNOON WITH JEEM ,8cSALAAMUHU ALAYNAA,",
   "21cSALLA USED AS KORANIC STOP SIGN ISOLATED FORM,chQALA ,ccALLAH ,ccAKBAR ,ccMOHAMMAD ,",
   "ccSALAM ,ccRASOUL ,ccALAYHE ,ccWASALLAM ,ccSALLA ,cSALLALLAHOU ALAYHE WASALLAM,",
   "cJALLAJALALOUHOU,aRIAL SIGN,aARABIC LIGATURE BISMILLAH AR-RAHMAN AR-RAHEEM,",
   "cSUBHAANAHU WA TAAALAA,cAZZA WA JALL,aVARIATION SELECTOR-1,0aVS1,aVARIATION SELECTOR-2,0aVS2,",
   "aVARIATION SELECTOR-3,0aVS3,aVARIATION SELECTOR-4,0aVS4,aVARIATION SELECTOR-5,0aVS5,",
   "aVARIATION SELECTOR-6,0aVS6,aVARIATION SELECTOR-7,0aVS7,aVARIATION SELECTOR-8,0aVS8,",
   "aVARIATION SELECTOR-9,0aVS9,aVARIATION SELECTOR-10,0aVS10,aVARIATION SELECTOR-11,0aVS11,",
   "aVARIATION SELECTOR-12,0aVS12,aVARIATION SELECTOR-13,0aVS13,aVARIATION SELECTOR-14,0aVS14,",
   "aVARIATION SELECTOR-15,0aVS15,aVARIATION SELECTOR-16,0aVS16,",
   "aPRESENTATION FORM FOR VERTICAL COMMA,ebIDEOGRAPHIC ,fFULL STOP,eCOLON,eSEMICOLON,",
   "eEXCLAMATION MARK,ebQUESTION ,eLEFT WHITE LENTICULAR BRACKET,eRIGHT WHITE LENTICULAR BRAKCET,",
   "0hBRACKET,eHORIZONTAL ELLIPSIS,7aCOMBINING LIGATURE LEFT HALF,cbRIGHT ,bbDOUBLE TILDE LEFT ,",
   "dbRIGHT ,bbMACRON LEFT ,cbRIGHT ,bCONJOINING MACRON,bLIGATURE LEFT HALF BELOW,ccRIGHT ,",
   "bcTILDE LEFT ,ccRIGHT ,bcMACRON LEFT ,ccRIGHT ,bbCONJOINING MACRON ,bCYRILLIC TITLO LEFT HALF,",
   "dbRIGHT ,aPRESENTATION FORM FOR VERTICAL TWO DOT LEADER,eEM DASH,ebEN ,eLOW LINE,ecWAVY ,",
   "eLEFT PARENTHESIS,ebRIGHT ,eLEFT CURLY BRACKET,ecRIGHT ,ebLEFT TORTOISE SHELL ,edRIGHT ,",
   "ebLEFT BLACK LENTICULAR ,edRIGHT ,ebLEFT DOUBLE ANGLE ,edRIGHT ,ecLEFT ,ecRIGHT ,",
   "ebLEFT CORNER ,ecRIGHT ,ecLEFT WHITE ,edRIGHT ,aSESAME DOT,acWHITE ,",
   "aPRESENTATION FORM FOR VERTICAL LEFT SQUARE BRACKET,ecRIGHT ,aDASHED OVERLINE,abCENTRELINE ,",
   "abWAVY ,acDOUBLE ,aDASHED LOW LINE,acCENTRELINE ,acWAVY ,aSMALL COMMA,bbIDEOGRAPHIC ,",
   "bFULL STOP,2bSEMICOLON,bCOLON,bQUESTION MARK,bbEXCLAMATION ,bEM DASH,bLEFT PARENTHESIS,",
   "bbRIGHT ,bLEFT CURLY BRACKET,bcRIGHT ,bbLEFT TORTOISE SHELL ,bdRIGHT ,bNUMBER SIGN,bAMPERSAND,",
   "bASTERISK,bPLUS SIGN,bHYPHEN-MINUS,bLESS-THAN SIGN,bcGREATER-,bbEQUALS ,2bREVERSE SOLIDUS,",
   "bDOLLAR SIGN,bbPERCENT ,bCOMMERCIAL AT,5aARABIC FATHATAN ISOLATED FORM,",
   "bTATWEEL WITH FATHATAN ABOVE,bDAMMATAN ISOLATED FORM,bTAIL FRAGMENT,bKASRATAN ISOLATED FORM,",
   "2bcFATHA ,cbMEDIAL ,bbDAMMA ISOLATED ,cbMEDIAL ,bbKASRA ISOLATED ,cbMEDIAL ,",
   "bbSHADDA ISOLATED ,cbMEDIAL ,bbSUKUN ISOLATED ,cbMEDIAL ,bbLETTER HAMZA ISOLATED ,",
   "ccALEF WITH MADDA ABOVE ,gbFINAL ,ebHAMZA ABOVE ISOLATED ,gbFINAL ,",
   "cbWAW WITH HAMZA ABOVE ISOLATED ,gbFINAL ,cbALEF WITH HAMZA BELOW ISOLATED ,gbFINAL ,",
   "cbYEH WITH HAMZA ABOVE ISOLATED ,gbFINAL ,gbINITIAL ,gbMEDIAL ,cbALEF ISOLATED ,dbFINAL ,",
   "cbBEH ISOLATED ,dbFINAL ,dbINITIAL ,dbMEDIAL ,cbTEH MARBUTA ISOLATED ,ebFINAL ,dbISOLATED ,",
   "dbFINAL ,dbINITIAL ,dbMEDIAL ,cbTHEH ISOLATED ,dbFINAL ,dbINITIAL ,dbMEDIAL ,cbJEEM ISOLATED ,",
   "dbFINAL ,dbINITIAL ,dbMEDIAL ,cbHAH ISOLATED ,dbFINAL ,dbINITIAL ,dbMEDIAL ,cbKHAH ISOLATED ,",
   "dbFINAL ,dbINITIAL ,dbMEDIAL ,cbDAL ISOLATED ,dbFINAL ,cbTHAL ISOLATED ,dbFINAL ,",
   "cbREH ISOLATED ,dbFINAL ,cbZAIN ISOLATED ,dbFINAL ,cbSEEN ISOLATED ,dbFINAL ,dbINITIAL ,",
   "dbMEDIAL ,cbSHEEN ISOLATED ,dbFINAL ,dbINITIAL ,dbMEDIAL ,cbSAD ISOLATED ,dbFINAL ,dbINITIAL ,",
   "dbMEDIAL ,cbDAD ISOLATED ,dbFINAL ,dbINITIAL ,dbMEDIAL ,cbTAH ISOLATED ,dbFINAL ,dbINITIAL ,",
   "dbMEDIAL ,cbZAH ISOLATED ,dbFINAL ,dbINITIAL ,dbMEDIAL ,cbAIN ISOLATED ,dbFINAL ,dbINITIAL ,",
   "dbMEDIAL ,cbGHAIN ISOLATED ,dbFINAL ,dbINITIAL ,dbMEDIAL ,cbFEH ISOLATED ,dbFINAL ,dbINITIAL ,",
   "dbMEDIAL ,cbQAF ISOLATED ,dbFINAL ,dbINITIAL ,dbMEDIAL ,cbKAF ISOLATED ,dbFINAL ,dbINITIAL ,",
   "dbMEDIAL ,cbLAM ISOLATED ,dbFINAL ,dbINITIAL ,dbMEDIAL ,cbMEEM ISOLATED ,dbFINAL ,dbINITIAL ,",
   "dbMEDIAL ,cbNOON ISOLATED ,dbFINAL ,dbINITIAL ,dbMEDIAL ,cbHEH ISOLATED ,dbFINAL ,dbINITIAL ,",
   "dbMEDIAL ,cbWAW ISOLATED ,dbFINAL ,cbALEF MAKSURA ISOLATED ,ebFINAL ,cbYEH ISOLATED ,dbFINAL ,",
   "dbINITIAL ,dbMEDIAL ,bbLIGATURE LAM WITH ALEF WITH MADDA ABOVE ISOLATED ,ibFINAL ,",
   "gbHAMZA ABOVE ISOLATED ,ibFINAL ,hbBELOW ISOLATED ,ibFINAL ,fbISOLATED ,fbFINAL ,",
   "3aZERO WIDTH NO-BREAK SPACE,0aBOM,0aBYTE ORDER MARK,0aZWNBSP,2aFULLWIDTH EXCLAMATION MARK,",
   "bbQUOTATION ,bNUMBER SIGN,bbDOLLAR ,bbPERCENT ,bAMPERSAND,bAPOSTROPHE,bLEFT PARENTHESIS,",
   "bbRIGHT ,bASTERISK,bPLUS SIGN,bCOMMA,bHYPHEN-MINUS,bFULL STOP,bSOLIDUS,bDIGIT ZERO,cONE,cTWO,",
   "cTHREE,cFOUR,cFIVE,cSIX,cSEVEN,cEIGHT,cNINE,bCOLON,bSEMICOLON,bLESS-THAN SIGN,bbEQUALS ,",
   "bbGREATER-THAN ,bQUESTION MARK,bCOMMERCIAL AT,bLATIN CAPITAL LETTER A,eB,eC,eD,eE,eF,eG,eH,eI,",
   "eJ,eK,eL,eM,eN,eO,eP,eQ,eR,eS,eT,eU,eV,eW,eX,eY,eZ,bLEFT SQUARE BRACKET,bREVERSE SOLIDUS,",
   "bRIGHT SQUARE BRACKET,bCIRCUMFLEX ACCENT,bLOW LINE,bGRAVE ACCENT,bLATIN SMALL LETTER A,eB,eC,",
   "eD,eE,eF,eG,eH,eI,eJ,eK,eL,eM,eN,eO,eP,eQ,eR,eS,eT,eU,eV,eW,eX,eY,eZ,bLEFT CURLY BRACKET,",
   "bVERTICAL LINE,bRIGHT CURLY BRACKET,bTILDE,bLEFT WHITE PARENTHESIS,bcRIGHT ,",
   "aHALFWIDTH IDEOGRAPHIC FULL STOP,bLEFT CORNER BRACKET,bcRIGHT ,bIDEOGRAPHIC COMMA,",
   "bKATAKANA MIDDLE DOT,cLETTER WO,dSMALL A,eI,eU,eE,eO,eYA,eYU,eYO,eTU,",
   "bKATAKANA-HIRAGANA PROLONGED SOUND MARK,bKATAKANA LETTER A,dI,dU,dE,dO,dKA,dKI,dKU,dKE,dKO,",
   "dSA,dSI,dSU,dSE,dSO,dTA,dTI,dTU,dTE,dTO,dNA,dNI,dNU,dNE,dNO,dHA,dHI,dHU,dHE,dHO,dMA,dMI,dMU,",
   "dME,dMO,dYA,dYU,dYO,dRA,dRI,dRU,dRE,dRO,dWA,dN,cVOICED SOUND MARK,cdSEMI-,bHANGUL FILLER,",
   "cLETTER KIYEOK,dSSANGKIYEOK,dKIYEOK-SIOS,dNIEUN,dNIEUN-CIEUC,eHIEUH,dTIKEUT,dSSANGTIKEUT,",
   "dRIEUL,dRIEUL-KIYEOK,eMIEUM,ePIEUP,eSIOS,eTHIEUTH,ePHIEUPH,eHIEUH,dMIEUM,dPIEUP,dSSANGPIEUP,",
   "dPIEUP-SIOS,db,dSSANGSIOS,dIEUNG,dCIEUC,dSSANGCIEUC,dCHIEUCH,dKHIEUKH,dTHIEUTH,dPHIEUPH,",
   "dHIEUH,4dA,dAE,dYA,dYAE,dEO,dE,3dYEO,dYE,dO,dWA,dWAE,dOE,3dYO,dU,dWEO,dWE,dWI,dYU,3dEU,dYI,dI,",
   "4aFULLWIDTH CENT SIGN,bbPOUND ,bbNOT ,bMACRON,bBROKEN BAR,bYEN SIGN,bbWON ,",
   "2aHALFWIDTH FORMS LIGHT VERTICAL,bLEFTWARDS ARROW,bbUPWARDS ,bbRIGHTWARDS ,bbDOWNWARDS ,",
   "bBLACK SQUARE,bWHITE CIRCLE,BaINTERLINEAR ANNOTATION ANCHOR,cSEPARATOR,cTERMINATOR,",
   "aOBJECT REPLACEMENT CHARACTER,ac,"]

end EnumCodec.Text
