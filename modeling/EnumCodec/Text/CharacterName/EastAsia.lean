/-!
# EnumCodec.Text.CharacterName.EastAsia

**The names of the characters from U+2E80 to U+A4CF.** The data are those of the Unicode standard,
version 14, with the aliases of characters; names that a rule of the standard gives are left out.
How an entry tells a name from the one before is said where the entries are read.
-/

namespace EnumCodec.Text

/-- The names of the characters from U+2E80 to U+A4CF. -/
def eastAsianNameRows : List String :=
  ["2E80aCJK RADICAL REPEAT,cCLIFF,cSECOND ONE,dTWO,dTHREE,cPERSON,cBOX,cTABLE,cKNIFE ONE,dTWO,",
   "cDIVINATION,cSEAL,cSMALL ONE,dTWO,cLAME ONE,dTWO,dTHREE,dFOUR,cSNAKE,cTHREAD,cSNOUT ONE,dTWO,",
   "cHEART ONE,dTWO,cHAND,cRAP,2cCHOKE,cSUN,cMOON,cDEATH,cMOTHER,cCIVILIAN,cWATER ONE,dTWO,cFIRE,",
   "cPAW ONE,dTWO,cSIMPLIFIED HALF TREE TRUNK,cCOW,cDOG,cJADE,cBOLT OF CLOTH,cEYE,cSPIRIT ONE,",
   "dTWO,cBAMBOO,cSILK,cbC-SIMPLIFIED ,cNET ONE,dTWO,dTHREE,dFOUR,cMESH,cSHEEP,cRAM,cEWE,cOLD,",
   "cBRUSH ONE,dTWO,cMEAT,cMORTAR,cGRASS ONE,dTWO,dTHREE,cTIGER,cCLOTHES,cWEST ONE,dTWO,",
   "cC-SIMPLIFIED SEE,cSIMPLIFIED HORN,cb,cC-SIMPLIFIED SPEECH,eSHELL,cFOOT,cC-SIMPLIFIED CART,",
   "cSIMPLIFIED WALK,cWALK ONE,dTWO,cCITY,cC-SIMPLIFIED GOLD,cLONG ONE,dTWO,cC-SIMPLIFIED LONG,",
   "eGATE,cMOUND ONE,dTWO,cRAIN,cBLUE,cC-SIMPLIFIED TANNED LEATHER,eLEAF,eWIND,eFLY,cEAT ONE,dTWO,",
   "dTHREE,cC-SIMPLIFIED EAT,cHEAD,cC-SIMPLIFIED HORSE,cBONE,cGHOST,cC-SIMPLIFIED FISH,eBIRD,",
   "eSALT,cSIMPLIFIED WHEAT,dYELLOW,cC-SIMPLIFIED FROG,cJ-SIMPLIFIED EVEN,ccC-,",
   "cJ-SIMPLIFIED TOOTH,ccC-,cJ-SIMPLIFIED DRAGON,ccC-,cTURTLE,cbJ-SIMPLIFIED ,ccC-,",
   "DaKANGXI RADICAL ONE,cLINE,cDOT,cSLASH,cSECOND,cHOOK,cTWO,cLID,cMAN,cLEGS,cENTER,cEIGHT,",
   "cDOWN BOX,cCOVER,cICE,cTABLE,cOPEN BOX,cKNIFE,cPOWER,cWRAP,cSPOON,cRIGHT OPEN BOX,",
   "cHIDING ENCLOSURE,cTEN,cDIVINATION,cSEAL,cCLIFF,cPRIVATE,cAGAIN,cMOUTH,cENCLOSURE,cEARTH,",
   "cSCHOLAR,cGO,cGO SLOWLY,cEVENING,cBIG,cWOMAN,cCHILD,cROOF,cINCH,cSMALL,cLAME,cCORPSE,cSPROUT,",
   "cMOUNTAIN,cRIVER,cWORK,cONESELF,cTURBAN,cDRY,cSHORT THREAD,cDOTTED CLIFF,cLONG STRIDE,",
   "cTWO HANDS,cSHOOT,cBOW,cSNOUT,cBRISTLE,cSTEP,cHEART,cHALBERD,cDOOR,cHAND,cBRANCH,cRAP,cSCRIPT,",
   "cDIPPER,cAXE,cSQUARE,cNOT,cSUN,cSAY,cMOON,cTREE,cLACK,cSTOP,cDEATH,cWEAPON,cDO NOT,cCOMPARE,",
   "cFUR,cCLAN,cSTEAM,cWATER,cFIRE,cCLAW,cFATHER,cDOUBLE X,cHALF TREE TRUNK,cSLICE,cFANG,cCOW,",
   "cDOG,cPROFOUND,cJADE,cMELON,cTILE,cSWEET,cLIFE,cUSE,cFIELD,cBOLT OF CLOTH,cSICKNESS,",
   "cDOTTED TENT,cWHITE,cSKIN,cDISH,cEYE,cSPEAR,cARROW,cSTONE,cSPIRIT,cTRACK,cGRAIN,cCAVE,cSTAND,",
   "cBAMBOO,cRICE,cSILK,cJAR,cNET,cSHEEP,cFEATHER,cOLD,cAND,cPLOW,cEAR,cBRUSH,cMEAT,cMINISTER,",
   "cSELF,cARRIVE,cMORTAR,cTONGUE,cOPPOSE,cBOAT,cSTOPPING,cCOLOR,cGRASS,cTIGER,cINSECT,cBLOOD,",
   "cWALK ENCLOSURE,cCLOTHES,cWEST,cSEE,cHORN,cSPEECH,cVALLEY,cBEAN,cPIG,cBADGER,cSHELL,cRED,cRUN,",
   "cFOOT,cBODY,cCART,cBITTER,cMORNING,cWALK,cCITY,cWINE,cDISTINGUISH,cVILLAGE,cGOLD,cLONG,cGATE,",
   "cMOUND,cSLAVE,cSHORT TAILED BIRD,cRAIN,cBLUE,cWRONG,cFACE,cLEATHER,cbTANNED ,cLEEK,cSOUND,",
   "cLEAF,cWIND,cFLY,cEAT,cHEAD,cFRAGRANT,cHORSE,cBONE,cTALL,cHAIR,cFIGHT,cSACRIFICIAL WINE,",
   "cCAULDRON,cGHOST,cFISH,cBIRD,cSALT,cDEER,cWHEAT,cHEMP,cYELLOW,cMILLET,cBLACK,cEMBROIDERY,",
   "cFROG,cTRIPOD,cDRUM,cRAT,cNOSE,cEVEN,cTOOTH,cDRAGON,cTURTLE,cFLUTE,",
   "1BaIDEOGRAPHIC DESCRIPTION CHARACTER LEFT TO RIGHT,dABOVE TO BELOW,dLEFT TO MIDDLE AND RIGHT,",
   "dABOVE TO MIDDLE AND BELOW,dFULL SURROUND,dSURROUND FROM ABOVE,fBELOW,fLEFT,fbUPPER ,gRIGHT,",
   "fLOWER LEFT,dOVERLAID,5bSPACE,bCOMMA,bFULL STOP,aDITTO MARK,",
   "aJAPANESE INDUSTRIAL STANDARD SYMBOL,aIDEOGRAPHIC ITERATION MARK,bbCLOSING ,bNUMBER ZERO,",
   "aLEFT ANGLE BRACKET,acRIGHT ,acLEFT DOUBLE ,adRIGHT ,abLEFT CORNER ,acRIGHT ,acLEFT WHITE ,",
   "adRIGHT ,abLEFT BLACK LENTICULAR ,adRIGHT ,aPOSTAL MARK,abGETA ,aLEFT TORTOISE SHELL BRACKET,",
   "adRIGHT ,abLEFT WHITE LENTICULAR ,adRIGHT ,abLEFT WHITE TORTOISE SHELL ,aeRIGHT ,",
   "abLEFT WHITE SQUARE ,adRIGHT ,aWAVE DASH,aREVERSED DOUBLE PRIME QUOTATION MARK,ae,aeLOW ,",
   "aPOSTAL MARK FACE,aHANGZHOU NUMERAL ONE,cTWO,cTHREE,cFOUR,cFIVE,cSIX,cSEVEN,cEIGHT,cNINE,",
   "aIDEOGRAPHIC LEVEL TONE MARK,bcRISING ,bcDEPARTING ,bcENTERING ,acHANGUL SINGLE DOT ,",
   "bdDOUBLE ,aWAVY DASH,aVERTICAL KANA REPEAT MARK,dbWITH VOICED SOUND ,dMARK UPPER HALF,",
   "ddWITH VOICED SOUND ,dbMARK LOWER ,aCIRCLED POSTAL MARK,",
   "aIDEOGRAPHIC TELEGRAPH LINE FEED SEPARATOR SYMBOL,aHANGZHOU NUMERAL TEN,cTWENTY,cTHIRTY,",
   "aVERTICAL IDEOGRAPHIC ITERATION MARK,abMASU ,abPART ALTERNATION ,",
   "aIDEOGRAPHIC VARIATION INDICATOR,bHALF FILL SPACE,2aHIRAGANA LETTER SMALL A,cb,cSMALL I,cb,",
   "cSMALL U,cb,cSMALL E,cb,cSMALL O,cb,cKA,cGA,cKI,cGI,cKU,cGU,cKE,cGE,cKO,cGO,cSA,cZA,cSI,cZI,",
   "cSU,cZU,cSE,cZE,cSO,cZO,cTA,cDA,cTI,cDI,cSMALL TU,cb,cDU,cTE,cDE,cTO,cDO,cNA,cNI,cNU,cNE,cNO,",
   "cHA,cBA,cPA,cHI,cBI,cPI,cHU,cBU,cPU,cHE,cBE,cPE,cHO,cBO,cPO,cMA,cMI,cMU,cME,cMO,cSMALL YA,cb,",
   "cSMALL YU,cb,cSMALL YO,cb,cRA,cRI,cRU,cRE,cRO,cSMALL WA,cb,cWI,cWE,cWO,cN,cVU,cSMALL KA,dKE,",
   "3aCOMBINING KATAKANA-HIRAGANA VOICED SOUND MARK,ddSEMI-,adKATAKANA-HIRAGANA ,cdSEMI-,",
   "abHIRAGANA ITERATION ,bcVOICED ,bDIGRAPH YORI,aKATAKANA-HIRAGANA DOUBLE HYPHEN,",
   "aKATAKANA LETTER SMALL A,cb,cSMALL I,cb,cSMALL U,cb,cSMALL E,cb,cSMALL O,cb,cKA,cGA,cKI,cGI,",
   "cKU,cGU,cKE,cGE,cKO,cGO,cSA,cZA,cSI,cZI,cSU,cZU,cSE,cZE,cSO,cZO,cTA,cDA,cTI,cDI,cSMALL TU,cb,",
   "cDU,cTE,cDE,cTO,cDO,cNA,cNI,cNU,cNE,cNO,cHA,cBA,cPA,cHI,cBI,cPI,cHU,cBU,cPU,cHE,cBE,cPE,cHO,",
   "cBO,cPO,cMA,cMI,cMU,cME,cMO,cSMALL YA,cb,cSMALL YU,cb,cSMALL YO,cb,cRA,cRI,cRU,cRE,cRO,",
   "cSMALL WA,cb,cWI,cWE,cWO,cN,cVU,cSMALL KA,dKE,cVA,cVI,cVE,cVO,bMIDDLE DOT,",
   "aKATAKANA-HIRAGANA PROLONGED SOUND MARK,abKATAKANA ITERATION ,bcVOICED ,bDIGRAPH KOTO,",
   "6aBOPOMOFO LETTER B,cP,cM,cF,cD,cT,cN,cL,cG,cK,cH,cJ,cQ,cX,cZH,cCH,cSH,cR,cZ,cC,cS,cA,cO,cE,",
   "cEH,cAI,cEI,cAU,cOU,cAN,cEN,cANG,cENG,cER,cI,cU,cIU,cV,cNG,cGN,cIH,cO WITH DOT ABOVE,cNN,",
   "2aHANGUL LETTER KIYEOK,cSSANGKIYEOK,cKIYEOK-SIOS,cNIEUN,cNIEUN-CIEUC,dHIEUH,cTIKEUT,",
   "cSSANGTIKEUT,cRIEUL,cRIEUL-KIYEOK,dMIEUM,dPIEUP,dSIOS,dTHIEUTH,dPHIEUPH,dHIEUH,cMIEUM,cPIEUP,",
   "cSSANGPIEUP,cPIEUP-SIOS,cb,cSSANGSIOS,cIEUNG,cCIEUC,cSSANGCIEUC,cCHIEUCH,cKHIEUKH,cTHIEUTH,",
   "cPHIEUPH,cHIEUH,cA,cAE,cYA,cYAE,cEO,cE,cYEO,cYE,cO,cWA,cWAE,cOE,cYO,cU,cWEO,cWE,cWI,cYU,cEU,",
   "cYI,cI,bFILLER,bLETTER SSANGNIEUN,cNIEUN-TIKEUT,dSIOS,dPANSIOS,cRIEUL-KIYEOK-SIOS,dTIKEUT,",
   "dPIEUP-SIOS,dPANSIOS,dYEORINHIEUH,cMIEUM-PIEUP,dSIOS,dPANSIOS,cKAPYEOUNMIEUM,cPIEUP-KIYEOK,",
   "dTIKEUT,dSIOS-KIYEOK,eTIKEUT,dCIEUC,dTHIEUTH,cKAPYEOUNPIEUP,cKAPYEOUNSSANGPIEUP,cSIOS-KIYEOK,",
   "dNIEUN,dTIKEUT,dPIEUP,dCIEUC,cPANSIOS,cSSANGIEUNG,cYESIEUNG,cYESIEUNG-SIOS,dPANSIOS,",
   "cKAPYEOUNPHIEUPH,cSSANGHIEUH,cYEORINHIEUH,cYO-YA,dYAE,dI,cYU-YEO,dYE,dI,cARAEA,cARAEAE,",
   "2aIDEOGRAPHIC ANNOTATION LINKING MARK,cbREVERSE ,cbONE ,cbTWO ,cbTHREE ,cbFOUR ,cbTOP ,",
   "cbMIDDLE ,cbBOTTOM ,cbFIRST ,cbSECOND ,cbTHIRD ,cbFOURTH ,cbHEAVEN ,cbEARTH ,cbMAN ,",
   "aBOPOMOFO LETTER BU,cZI,cJI,cGU,cEE,cENN,cOO,cONN,cIR,cANN,cINN,cUNN,cIM,cNGG,cAINN,cAUNN,cAM,",
   "cOM,cONG,cINNN,bFINAL LETTER P,dT,dK,dH,bLETTER GH,cLH,cZY,bFINAL LETTER G,bLETTER GW,cKW,cOE,",
   "cAH,aCJK STROKE T,cWG,cXG,cBXG,cSW,cHZZ,cHZG,cHP,cHZWG,cSZWG,cHZT,cHZZP,cHPWG,cHZW,cHZZZ,cN,",
   "cH,cS,cP,cSP,cD,cHZ,cHG,cSZ,cSWZ,cST,cSG,cPD,cPZ,cTN,cSZZ,cSWG,cHXWG,cHZZZG,cPG,cQ,",
   "DaKATAKANA LETTER SMALL KU,dSI,dSU,dTO,dNU,dHA,dHI,dHU,dHE,dHO,dMU,dRA,dRI,dRU,dRE,dRO,",
   "aPARENTHESIZED HANGUL KIYEOK,cNIEUN,cTIKEUT,cRIEUL,cMIEUM,cPIEUP,cSIOS,cIEUNG,cCIEUC,cCHIEUCH,",
   "cKHIEUKH,cTHIEUTH,cPHIEUPH,cHIEUH,cKIYEOK A,cbNIEUN ,cbTIKEUT ,cbRIEUL ,cbMIEUM ,cbPIEUP ,",
   "cbSIOS ,cbIEUNG ,cbCIEUC ,cbCHIEUCH ,cbKHIEUKH ,cbTHIEUTH ,cbPHIEUPH ,cbHIEUH ,cCIEUC U,",
   "bKOREAN CHARACTER OJEON,dO HU,2bIDEOGRAPH ONE,cTWO,cTHREE,cFOUR,cFIVE,cSIX,cSEVEN,cEIGHT,",
   "cNINE,cTEN,cMOON,cFIRE,cWATER,cWOOD,cMETAL,cEARTH,cSUN,cSTOCK,cHAVE,cSOCIETY,cNAME,cSPECIAL,",
   "cFINANCIAL,cCONGRATULATION,cLABOR,cREPRESENT,cCALL,cSTUDY,cSUPERVISE,cENTERPRISE,cRESOURCE,",
   "cALLIANCE,cFESTIVAL,cREST,cSELF,cREACH,aCIRCLED IDEOGRAPH QUESTION,cKINDERGARTEN,cSCHOOL,",
   "cKOTO,bNUMBER TEN ON BLACK SQUARE,cdTWENTY ,cdTHIRTY ,cdFORTY ,cdFIFTY ,cdSIXTY ,cdSEVENTY ,",
   "cdEIGHTY ,aPARTNERSHIP SIGN,aCIRCLED NUMBER TWENTY ONE,dTWO,dTHREE,dFOUR,dFIVE,dSIX,dSEVEN,",
   "dEIGHT,dNINE,cTHIRTY,cTHIRTY ONE,dTWO,dTHREE,dFOUR,dFIVE,bHANGUL KIYEOK,cNIEUN,cTIKEUT,cRIEUL,",
   "cMIEUM,cPIEUP,cSIOS,cIEUNG,cCIEUC,cCHIEUCH,cKHIEUKH,cTHIEUTH,cPHIEUPH,cHIEUH,cKIYEOK A,",
   "cbNIEUN ,cbTIKEUT ,cbRIEUL ,cbMIEUM ,cbPIEUP ,cbSIOS ,cbIEUNG ,cbCIEUC ,cbCHIEUCH ,cbKHIEUKH ,",
   "cbTHIEUTH ,cbPHIEUPH ,cbHIEUH ,bKOREAN CHARACTER CHAMKO,dJUEUI,bHANGUL IEUNG U,",
   "aKOREAN STANDARD SYMBOL,aCIRCLED IDEOGRAPH ONE,cTWO,cTHREE,cFOUR,cFIVE,cSIX,cSEVEN,cEIGHT,",
   "cNINE,cTEN,cMOON,cFIRE,cWATER,cWOOD,cMETAL,cEARTH,cSUN,cSTOCK,cHAVE,cSOCIETY,cNAME,cSPECIAL,",
   "cFINANCIAL,cCONGRATULATION,cLABOR,cSECRET,cMALE,cFEMALE,cSUITABLE,cEXCELLENT,cPRINT,",
   "cATTENTION,cITEM,cREST,cCOPY,cCORRECT,cHIGH,cCENTRE,cLOW,cLEFT,cRIGHT,cMEDICINE,cRELIGION,",
   "cSTUDY,cSUPERVISE,cENTERPRISE,cRESOURCE,cALLIANCE,cNIGHT,bNUMBER THIRTY SIX,dSEVEN,dEIGHT,",
   "dNINE,cFORTY,cFORTY ONE,dTWO,dTHREE,dFOUR,dFIVE,dSIX,dSEVEN,dEIGHT,dNINE,cFIFTY,",
   "aIDEOGRAPHIC TELEGRAPH SYMBOL FOR JANUARY,eFEBRUARY,eMARCH,eAPRIL,eMAY,eJUNE,eJULY,eAUGUST,",
   "eSEPTEMBER,eOCTOBER,eNOVEMBER,eDECEMBER,aSQUARE HG,bERG,bEV,aLIMITED LIABILITY SIGN,",
   "aCIRCLED KATAKANA A,cI,cU,cE,cO,cKA,cKI,cKU,cKE,cKO,cSA,cSI,cSU,cSE,cSO,cTA,cTI,cTU,cTE,cTO,",
   "cNA,cNI,cNU,cNE,cNO,cHA,cHI,cHU,cHE,cHO,cMA,cMI,cMU,cME,cMO,cYA,cYU,cYO,cRA,cRI,cRU,cRE,cRO,",
   "cWA,cWI,cWE,cWO,aSQUARE ERA NAME REIWA,bAPAATO,bARUHUA,bANPEA,bAARU,bININGU,bINTI,bUON,",
   "bESUKUUDO,bEEKAA,bONSU,bOOMU,bKAIRI,bKARATTO,bKARORII,bGARON,bGANMA,bGIGA,bGINII,bKYURII,",
   "bGIRUDAA,bKIRO,bKIROGURAMU,bKIROMEETORU,bKIROWATTO,bGURAMU,bGURAMUTON,bKURUZEIRO,bKUROONE,",
   "bKEESU,bKORUNA,bKOOPO,bSAIKURU,bSANTIIMU,bSIRINGU,bSENTI,bSENTO,bDAASU,bDESI,bDORU,bTON,bNANO,",
   "bNOTTO,bHAITU,bPAASENTO,bPAATU,bBAARERU,bPIASUTORU,bPIKURU,bPIKO,bBIRU,bHUARADDO,bHUIITO,",
   "bBUSSYERU,bHURAN,bHEKUTAARU,bPESO,bPENIHI,bHERUTU,bPENSU,bPEEZI,bBEETA,bPOINTO,bBORUTO,bHON,",
   "bPONDO,bHOORU,bHOON,bMAIKURO,bMAIRU,bMAHHA,bMARUKU,bMANSYON,bMIKURON,bMIRI,bMIRIBAARU,bMEGA,",
   "bMEGATON,bMEETORU,bYAADO,bYAARU,bYUAN,bRITTORU,bRIRA,bRUPII,bRUUBURU,bREMU,bRENTOGEN,bWATTO,",
   "aIDEOGRAPHIC TELEGRAPH SYMBOL FOR HOUR ZERO,fONE,fTWO,fTHREE,fFOUR,fFIVE,fSIX,fSEVEN,fEIGHT,",
   "fNINE,fTEN,fELEVEN,fTWELVE,fTHIRTEEN,fFOURTEEN,fFIFTEEN,fSIXTEEN,fSEVENTEEN,fEIGHTEEN,",
   "fNINETEEN,fTWENTY,fTWENTY-ONE,gTWO,gTHREE,gFOUR,aSQUARE HPA,bDA,bAU,bBAR,bOV,bPC,bDM,",
   "bDM SQUARED,cCUBED,bIU,bERA NAME HEISEI,dSYOUWA,dTAISYOU,dMEIZI,bCORPORATION,bPA AMPS,bNA,",
   "bMU A,bMA,bKA,bKB,bMB,bGB,bCAL,bKCAL,bPF,bNF,bMU F,cG,bMG,bKG,bHZ,bKHZ,bMHZ,bGHZ,bTHZ,bMU L,",
   "bML,bDL,bKL,bFM,bNM,bMU M,bMM,bCM,bKM,bMM SQUARED,bbCM ,bbM ,bbKM ,bMM CUBED,bbCM ,bbM ,bbKM ,",
   "bM OVER S,dS SQUARED,bPA,bKPA,bMPA,bGPA,bRAD,bRAD OVER S,dS SQUARED,bPS,bNS,bMU S,bMS,bPV,bNV,",
   "bMU V,bMV,bKV,bMV MEGA,bPW,bNW,bMU W,bMW,bKW,bMW MEGA,bK OHM,bbM ,bAM,bBQ,bCC,bCD,bC OVER KG,",
   "bCO,bDB,bGY,bHA,bHP,bIN,bKK,bKM CAPITAL,bKT,bLM,bLN,bLOG,bLX,bMB SMALL,bMIL,bMOL,bPH,bPM,bPPM,",
   "bPR,bSR,bSV,bWB,bV OVER M,bcA ,aIDEOGRAPHIC TELEGRAPH SYMBOL FOR DAY ONE,fTWO,fTHREE,fFOUR,",
   "fFIVE,fSIX,fSEVEN,fEIGHT,fNINE,fTEN,fELEVEN,fTWELVE,fTHIRTEEN,fFOURTEEN,fFIFTEEN,fSIXTEEN,",
   "fSEVENTEEN,fEIGHTEEN,fNINETEEN,fTWENTY,fTWENTY-ONE,gTWO,gTHREE,gFOUR,gFIVE,gSIX,gSEVEN,gEIGHT,",
   "gNINE,fTHIRTY,fTHIRTY-ONE,aSQUARE GAL,19C1aHEXAGRAM FOR THE CREATIVE HEAVEN,dRECEPTIVE EARTH,",
   "cDIFFICULTY AT THE BEGINNING,cYOUTHFUL FOLLY,cWAITING,cCONFLICT,cTHE ARMY,cHOLDING TOGETHER,",
   "cSMALL TAMING,cTREADING,cPEACE,cSTANDSTILL,cFELLOWSHIP,cGREAT POSSESSION,cMODESTY,cENTHUSIASM,",
   "cFOLLOWING,cWORK ON THE DECAYED,cAPPROACH,cCONTEMPLATION,cBITING THROUGH,cGRACE,",
   "cSPLITTING APART,cRETURN,cINNOCENCE,cGREAT TAMING,cMOUTH CORNERS,cGREAT PREPONDERANCE,",
   "cTHE ABYSMAL WATER,dCLINGING FIRE,cINFLUENCE,cDURATION,cRETREAT,cGREAT POWER,cPROGRESS,",
   "cDARKENING OF THE LIGHT,cTHE FAMILY,cOPPOSITION,cOBSTRUCTION,cDELIVERANCE,cDECREASE,cINCREASE,",
   "cBREAKTHROUGH,cCOMING TO MEET,cGATHERING TOGETHER,cPUSHING UPWARD,cOPPRESSION,cTHE WELL,",
   "cREVOLUTION,cTHE CAULDRON,dAROUSING THUNDER,dKEEPING STILL MOUNTAIN,cDEVELOPMENT,",
   "cTHE MARRYING MAIDEN,cABUNDANCE,cTHE WANDERER,dGENTLE WIND,dJOYOUS LAKE,cDISPERSION,",
   "cLIMITATION,cINNER TRUTH,cSMALL PREPONDERANCE,cAFTER COMPLETION,cbBEFORE ,5201aYI SYLLABLE IT,",
   "cIX,cI,cIP,cIET,cIEX,cIE,cIEP,cAT,cAX,cA,cAP,cUOX,cUO,cUOP,cOT,cOX,cO,cOP,cEX,cE,cWU,",
   "0cITERATION MARK,cBIT,cBIX,cBI,cBIP,cBIET,cBIEX,cBIE,cBIEP,cBAT,cBAX,cBA,cBAP,cBUOX,cBUO,",
   "cBUOP,cBOT,cBOX,cBO,cBOP,cBEX,cBE,cBEP,cBUT,cBUX,cBU,cBUP,cBURX,cBUR,cBYT,cBYX,cBY,cBYP,cBYRX,",
   "cBYR,cPIT,cPIX,cPI,cPIP,cPIEX,cPIE,cPIEP,cPAT,cPAX,cPA,cPAP,cPUOX,cPUO,cPUOP,cPOT,cPOX,cPO,",
   "cPOP,cPUT,cPUX,cPU,cPUP,cPURX,cPUR,cPYT,cPYX,cPY,cPYP,cPYRX,cPYR,cBBIT,cBBIX,cBBI,cBBIP,",
   "cBBIET,cBBIEX,cBBIE,cBBIEP,cBBAT,cBBAX,cBBA,cBBAP,cBBUOX,cBBUO,cBBUOP,cBBOT,cBBOX,cBBO,cBBOP,",
   "cBBEX,cBBE,cBBEP,cBBUT,cBBUX,cBBU,cBBUP,cBBURX,cBBUR,cBBYT,cBBYX,cBBY,cBBYP,cNBIT,cNBIX,cNBI,",
   "cNBIP,cNBIEX,cNBIE,cNBIEP,cNBAT,cNBAX,cNBA,cNBAP,cNBOT,cNBOX,cNBO,cNBOP,cNBUT,cNBUX,cNBU,",
   "cNBUP,cNBURX,cNBUR,cNBYT,cNBYX,cNBY,cNBYP,cNBYRX,cNBYR,cHMIT,cHMIX,cHMI,cHMIP,cHMIEX,cHMIE,",
   "cHMIEP,cHMAT,cHMAX,cHMA,cHMAP,cHMUOX,cHMUO,cHMUOP,cHMOT,cHMOX,cHMO,cHMOP,cHMUT,cHMUX,cHMU,",
   "cHMUP,cHMURX,cHMUR,cHMYX,cHMY,cHMYP,cHMYRX,cHMYR,cMIT,cMIX,cMI,cMIP,cMIEX,cMIE,cMIEP,cMAT,",
   "cMAX,cMA,cMAP,cMUOT,cMUOX,cMUO,cMUOP,cMOT,cMOX,cMO,cMOP,cMEX,cME,cMUT,cMUX,cMU,cMUP,cMURX,",
   "cMUR,cMYT,cMYX,cMY,cMYP,cFIT,cFIX,cFI,cFIP,cFAT,cFAX,cFA,cFAP,cFOX,cFO,cFOP,cFUT,cFUX,cFU,",
   "cFUP,cFURX,cFUR,cFYT,cFYX,cFY,cFYP,cVIT,cVIX,cVI,cVIP,cVIET,cVIEX,cVIE,cVIEP,cVAT,cVAX,cVA,",
   "cVAP,cVOT,cVOX,cVO,cVOP,cVEX,cVEP,cVUT,cVUX,cVU,cVUP,cVURX,cVUR,cVYT,cVYX,cVY,cVYP,cVYRX,cVYR,",
   "cDIT,cDIX,cDI,cDIP,cDIEX,cDIE,cDIEP,cDAT,cDAX,cDA,cDAP,cDUOX,cDUO,cDOT,cDOX,cDO,cDOP,cDEX,cDE,",
   "cDEP,cDUT,cDUX,cDU,cDUP,cDURX,cDUR,cTIT,cTIX,cTI,cTIP,cTIEX,cTIE,cTIEP,cTAT,cTAX,cTA,cTAP,",
   "cTUOT,cTUOX,cTUO,cTUOP,cTOT,cTOX,cTO,cTOP,cTEX,cTE,cTEP,cTUT,cTUX,cTU,cTUP,cTURX,cTUR,cDDIT,",
   "cDDIX,cDDI,cDDIP,cDDIEX,cDDIE,cDDIEP,cDDAT,cDDAX,cDDA,cDDAP,cDDUOX,cDDUO,cDDUOP,cDDOT,cDDOX,",
   "cDDO,cDDOP,cDDEX,cDDE,cDDEP,cDDUT,cDDUX,cDDU,cDDUP,cDDURX,cDDUR,cNDIT,cNDIX,cNDI,cNDIP,cNDIEX,",
   "cNDIE,cNDAT,cNDAX,cNDA,cNDAP,cNDOT,cNDOX,cNDO,cNDOP,cNDEX,cNDE,cNDEP,cNDUT,cNDUX,cNDU,cNDUP,",
   "cNDURX,cNDUR,cHNIT,cHNIX,cHNI,cHNIP,cHNIET,cHNIEX,cHNIE,cHNIEP,cHNAT,cHNAX,cHNA,cHNAP,cHNUOX,",
   "cHNUO,cHNOT,cHNOX,cHNOP,cHNEX,cHNE,cHNEP,cHNUT,cNIT,cNIX,cNI,cNIP,cNIEX,cNIE,cNIEP,cNAX,cNA,",
   "cNAP,cNUOX,cNUO,cNUOP,cNOT,cNOX,cNO,cNOP,cNEX,cNE,cNEP,cNUT,cNUX,cNU,cNUP,cNURX,cNUR,cHLIT,",
   "cHLIX,cHLI,cHLIP,cHLIEX,cHLIE,cHLIEP,cHLAT,cHLAX,cHLA,cHLAP,cHLUOX,cHLUO,cHLUOP,cHLOX,cHLO,",
   "cHLOP,cHLEX,cHLE,cHLEP,cHLUT,cHLUX,cHLU,cHLUP,cHLURX,cHLUR,cHLYT,cHLYX,cHLY,cHLYP,cHLYRX,",
   "cHLYR,cLIT,cLIX,cLI,cLIP,cLIET,cLIEX,cLIE,cLIEP,cLAT,cLAX,cLA,cLAP,cLUOT,cLUOX,cLUO,cLUOP,",
   "cLOT,cLOX,cLO,cLOP,cLEX,cLE,cLEP,cLUT,cLUX,cLU,cLUP,cLURX,cLUR,cLYT,cLYX,cLY,cLYP,cLYRX,cLYR,",
   "cGIT,cGIX,cGI,cGIP,cGIET,cGIEX,cGIE,cGIEP,cGAT,cGAX,cGA,cGAP,cGUOT,cGUOX,cGUO,cGUOP,cGOT,cGOX,",
   "cGO,cGOP,cGET,cGEX,cGE,cGEP,cGUT,cGUX,cGU,cGUP,cGURX,cGUR,cKIT,cKIX,cKI,cKIP,cKIEX,cKIE,cKIEP,",
   "cKAT,cKAX,cKA,cKAP,cKUOX,cKUO,cKUOP,cKOT,cKOX,cKO,cKOP,cKET,cKEX,cKE,cKEP,cKUT,cKUX,cKU,cKUP,",
   "cKURX,cKUR,cGGIT,cGGIX,cGGI,cGGIEX,cGGIE,cGGIEP,cGGAT,cGGAX,cGGA,cGGAP,cGGUOT,cGGUOX,cGGUO,",
   "cGGUOP,cGGOT,cGGOX,cGGO,cGGOP,cGGET,cGGEX,cGGE,cGGEP,cGGUT,cGGUX,cGGU,cGGUP,cGGURX,cGGUR,",
   "cMGIEX,cMGIE,cMGAT,cMGAX,cMGA,cMGAP,cMGUOX,cMGUO,cMGUOP,cMGOT,cMGOX,cMGO,cMGOP,cMGEX,cMGE,",
   "cMGEP,cMGUT,cMGUX,cMGU,cMGUP,cMGURX,cMGUR,cHXIT,cHXIX,cHXI,cHXIP,cHXIET,cHXIEX,cHXIE,cHXIEP,",
   "cHXAT,cHXAX,cHXA,cHXAP,cHXUOT,cHXUOX,cHXUO,cHXUOP,cHXOT,cHXOX,cHXO,cHXOP,cHXEX,cHXE,cHXEP,",
   "cNGIEX,cNGIE,cNGIEP,cNGAT,cNGAX,cNGA,cNGAP,cNGUOT,cNGUOX,cNGUO,cNGOT,cNGOX,cNGO,cNGOP,cNGEX,",
   "cNGE,cNGEP,cHIT,cHIEX,cHIE,cHAT,cHAX,cHA,cHAP,cHUOT,cHUOX,cHUO,cHUOP,cHOT,cHOX,cHO,cHOP,cHEX,",
   "cHE,cHEP,cWAT,cWAX,cWA,cWAP,cWUOX,cWUO,cWUOP,cWOX,cWO,cWOP,cWEX,cWE,cWEP,cZIT,cZIX,cZI,cZIP,",
   "cZIEX,cZIE,cZIEP,cZAT,cZAX,cZA,cZAP,cZUOX,cZUO,cZUOP,cZOT,cZOX,cZO,cZOP,cZEX,cZE,cZEP,cZUT,",
   "cZUX,cZU,cZUP,cZURX,cZUR,cZYT,cZYX,cZY,cZYP,cZYRX,cZYR,cCIT,cCIX,cCI,cCIP,cCIET,cCIEX,cCIE,",
   "cCIEP,cCAT,cCAX,cCA,cCAP,cCUOX,cCUO,cCUOP,cCOT,cCOX,cCO,cCOP,cCEX,cCE,cCEP,cCUT,cCUX,cCU,cCUP,",
   "cCURX,cCUR,cCYT,cCYX,cCY,cCYP,cCYRX,cCYR,cZZIT,cZZIX,cZZI,cZZIP,cZZIET,cZZIEX,cZZIE,cZZIEP,",
   "cZZAT,cZZAX,cZZA,cZZAP,cZZOX,cZZO,cZZOP,cZZEX,cZZE,cZZEP,cZZUX,cZZU,cZZUP,cZZURX,cZZUR,cZZYT,",
   "cZZYX,cZZY,cZZYP,cZZYRX,cZZYR,cNZIT,cNZIX,cNZI,cNZIP,cNZIEX,cNZIE,cNZIEP,cNZAT,cNZAX,cNZA,",
   "cNZAP,cNZUOX,cNZUO,cNZOX,cNZOP,cNZEX,cNZE,cNZUX,cNZU,cNZUP,cNZURX,cNZUR,cNZYT,cNZYX,cNZY,",
   "cNZYP,cNZYRX,cNZYR,cSIT,cSIX,cSI,cSIP,cSIEX,cSIE,cSIEP,cSAT,cSAX,cSA,cSAP,cSUOX,cSUO,cSUOP,",
   "cSOT,cSOX,cSO,cSOP,cSEX,cSE,cSEP,cSUT,cSUX,cSU,cSUP,cSURX,cSUR,cSYT,cSYX,cSY,cSYP,cSYRX,cSYR,",
   "cSSIT,cSSIX,cSSI,cSSIP,cSSIEX,cSSIE,cSSIEP,cSSAT,cSSAX,cSSA,cSSAP,cSSOT,cSSOX,cSSO,cSSOP,",
   "cSSEX,cSSE,cSSEP,cSSUT,cSSUX,cSSU,cSSUP,cSSYT,cSSYX,cSSY,cSSYP,cSSYRX,cSSYR,cZHAT,cZHAX,cZHA,",
   "cZHAP,cZHUOX,cZHUO,cZHUOP,cZHOT,cZHOX,cZHO,cZHOP,cZHET,cZHEX,cZHE,cZHEP,cZHUT,cZHUX,cZHU,",
   "cZHUP,cZHURX,cZHUR,cZHYT,cZHYX,cZHY,cZHYP,cZHYRX,cZHYR,cCHAT,cCHAX,cCHA,cCHAP,cCHUOT,cCHUOX,",
   "cCHUO,cCHUOP,cCHOT,cCHOX,cCHO,cCHOP,cCHET,cCHEX,cCHE,cCHEP,cCHUX,cCHU,cCHUP,cCHURX,cCHUR,",
   "cCHYT,cCHYX,cCHY,cCHYP,cCHYRX,cCHYR,cRRAX,cRRA,cRRUOX,cRRUO,cRROT,cRROX,cRRO,cRROP,cRRET,",
   "cRREX,cRRE,cRREP,cRRUT,cRRUX,cRRU,cRRUP,cRRURX,cRRUR,cRRYT,cRRYX,cRRY,cRRYP,cRRYRX,cRRYR,",
   "cNRAT,cNRAX,cNRA,cNRAP,cNROX,cNRO,cNROP,cNRET,cNREX,cNRE,cNREP,cNRUT,cNRUX,cNRU,cNRUP,cNRURX,",
   "cNRUR,cNRYT,cNRYX,cNRY,cNRYP,cNRYRX,cNRYR,cSHAT,cSHAX,cSHA,cSHAP,cSHUOX,cSHUO,cSHUOP,cSHOT,",
   "cSHOX,cSHO,cSHOP,cSHET,cSHEX,cSHE,cSHEP,cSHUT,cSHUX,cSHU,cSHUP,cSHURX,cSHUR,cSHYT,cSHYX,cSHY,",
   "cSHYP,cSHYRX,cSHYR,cRAT,cRAX,cRA,cRAP,cRUOX,cRUO,cRUOP,cROT,cROX,cRO,cROP,cREX,cRE,cREP,cRUT,",
   "cRUX,cRU,cRUP,cRURX,cRUR,cRYT,cRYX,cRY,cRYP,cRYRX,cRYR,cJIT,cJIX,cJI,cJIP,cJIET,cJIEX,cJIE,",
   "cJIEP,cJUOT,cJUOX,cJUO,cJUOP,cJOT,cJOX,cJO,cJOP,cJUT,cJUX,cJU,cJUP,cJURX,cJUR,cJYT,cJYX,cJY,",
   "cJYP,cJYRX,cJYR,cQIT,cQIX,cQI,cQIP,cQIET,cQIEX,cQIE,cQIEP,cQUOT,cQUOX,cQUO,cQUOP,cQOT,cQOX,",
   "cQO,cQOP,cQUT,cQUX,cQU,cQUP,cQURX,cQUR,cQYT,cQYX,cQY,cQYP,cQYRX,cQYR,cJJIT,cJJIX,cJJI,cJJIP,",
   "cJJIET,cJJIEX,cJJIE,cJJIEP,cJJUOX,cJJUO,cJJUOP,cJJOT,cJJOX,cJJO,cJJOP,cJJUT,cJJUX,cJJU,cJJUP,",
   "cJJURX,cJJUR,cJJYT,cJJYX,cJJY,cJJYP,cNJIT,cNJIX,cNJI,cNJIP,cNJIET,cNJIEX,cNJIE,cNJIEP,cNJUOX,",
   "cNJUO,cNJOT,cNJOX,cNJO,cNJOP,cNJUX,cNJU,cNJUP,cNJURX,cNJUR,cNJYT,cNJYX,cNJY,cNJYP,cNJYRX,",
   "cNJYR,cNYIT,cNYIX,cNYI,cNYIP,cNYIET,cNYIEX,cNYIE,cNYIEP,cNYUOX,cNYUO,cNYUOP,cNYOT,cNYOX,cNYO,",
   "cNYOP,cNYUT,cNYUX,cNYU,cNYUP,cXIT,cXIX,cXI,cXIP,cXIET,cXIEX,cXIE,cXIEP,cXUOX,cXUO,cXOT,cXOX,",
   "cXO,cXOP,cXYT,cXYX,cXY,cXYP,cXYRX,cXYR,cYIT,cYIX,cYI,cYIP,cYIET,cYIEX,cYIE,cYIEP,cYUOT,cYUOX,",
   "cYUO,cYUOP,cYOT,cYOX,cYO,cYOP,cYUT,cYUX,cYU,cYUP,cYURX,cYUR,cYYT,cYYX,cYY,cYYP,cYYRX,cYYR,",
   "4bRADICAL QOT,cLI,cKIT,cNYIP,cCYP,cSSI,cGGOP,cGEP,cMI,cHXIT,cLYR,cBBUT,cMOP,cYO,cPUT,cHXUO,",
   "cTAT,cGA,cZUP,cCYT,cDDUR,cBUR,cGGUO,cNYOP,cTU,cOP,cJJUT,cZOT,cPYT,cHMO,cYIT,cVUR,cSHY,cVEP,",
   "cZA,cJO,cNZUP,cJJY,cGOT,cJJIE,cWO,cDU,cSHUR,cLIE,cCY,cCUOP,cCIP,cHXOP,cSHAT,cZUR,cSHOP,cCHE,",
   "cZZIET,cNBIE,cKE,"]

end EnumCodec.Text
