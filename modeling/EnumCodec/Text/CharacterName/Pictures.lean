/-!
# EnumCodec.Text.CharacterName.Pictures

**The names of the characters from U+1D000 on.** The data are those of the Unicode standard, version
14, with the aliases of characters; names that a rule of the standard gives are left out. How an
entry tells a name from the one before is said where the entries are read.
-/

namespace EnumCodec.Text

/-- The names of the characters from U+1D000 on. -/
def pictureNameRows : List String :=
  ["1D000aBYZANTINE MUSICAL SYMBOL PSILI,dDASEIA,dPERISPOMENI,dOXEIA EKFONITIKON,eDIPLI,",
   "dVAREIA EKFONITIKON,eDIPLI,dKATHISTI,dSYRMATIKI,dPARAKLITIKI,dYPOKRISIS,dYPOKRISIS DIPLI,",
   "dKREMASTI,dAPESO EKFONITIKON,dbEXO ,dTELEIA,dKENTIMATA,dAPOSTROFOS,dAPOSTROFOS DIPLI,dSYNEVMA,",
   "dTHITA,dOLIGON ARCHAION,dbGORGON ,dPSILON,dCHAMILON,dVATHY,dISON ARCHAION,dbKENTIMA ,",
   "dbKENTIMATA ,dSAXIMATA,dPARICHON,dSTAVROS APODEXIA,dOXEIAI ARCHAION,dbVAREIAI ,dbAPODERMA ,",
   "dAPOTHEMA,dKLASMA,dREVMA,dPIASMA ARCHAION,dTINAGMA,dANATRICHISMA,dSEISMA,dSYNAGMA ARCHAION,",
   "eMETA STAVROU,dOYRANISMA ARCHAION,dTHEMA,dLEMOI,dDYO,dTRIA,dTESSERA,dKRATIMATA,dAPESO EXO NEO,",
   "dFTHORA ARCHAION,dIMIFTHORA,dTROMIKON ARCHAION,dKATAVA TROMIKON,dPELASTON,dPSIFISTON,",
   "dKONTEVMA,dCHOREVMA ARCHAION,dRAPISMA,dPARAKALESMA ARCHAION,dbPARAKLITIKI ,dICHADIN,dNANA,",
   "dPETASMA,dKONTEVMA ALLO,dbTROMIKON ,dSTRAGGISMATA,dGRONTHISMATA,dISON NEO,dbOLIGON ,dbOXEIA ,",
   "dPETASTI,dKOUFISMA,dPETASTOKOUFISMA,dKRATIMOKOUFISMA,dPELASTON NEO,dKENTIMATA NEO ANO,",
   "dcKENTIMA ,dYPSILI,dAPOSTROFOS NEO,dbAPOSTROFOI SYNDESMOS ,dYPORROI,dKRATIMOYPORROON,dELAFRON,",
   "dCHAMILI,dMIKRON ISON,dVAREIA NEO,dbPIASMA ,dbPSIFISTON ,dOMALON,dANTIKENOMA,dLYGISMA,",
   "dPARAKLITIKI NEO,dbPARAKALESMA ,dETERON PARAKALESMA,dKYLISMA,dANTIKENOKYLISMA,dTROMIKON NEO,",
   "dEKSTREPTON,dSYNAGMA NEO,dSYRMA,dCHOREVMA NEO,dEPEGERMA,dSEISMA NEO,dXIRON KLASMA,",
   "dTROMIKOPSIFISTON,dPSIFISTOLYGISMA,dTROMIKOLYGISMA,dTROMIKOPARAKALESMA,dPSIFISTOPARAKALESMA,",
   "dTROMIKOSYNAGMA,dPSIFISTOSYNAGMA,dGORGOSYNTHETON,dARGOSYNTHETON,dbETERON ,dOYRANISMA NEO,",
   "dTHEMATISMOS ESO,eEXO,dTHEMA APLOUN,dTHES KAI APOTHES,dKATAVASMA,dENDOFONON,dYFEN KATO,eANO,",
   "dSTAVROS,dKLASMA ANO,dDIPLI ARCHAION,dbKRATIMA ,eALLO,eNEO,dbAPODERMA ,dAPLI,dDIPLI,dTRIPLI,",
   "dTETRAPLI,dKORONIS,dLEIMMA ENOS CHRONOU,eDYO CHRONON,ebTRION ,ebTESSARON ,eIMISEOS CHRONOU,",
   "dGORGON NEO ANO,ePARESTIGMENON ARISTERA,fDEXIA,dDIGORGON,",
   "dDIGORGON PARESTIGMENON ARISTERA KATO,gANO,fDEXIA,dTRIGORGON,dARGON,dIMIDIARGON,dDIARGON,",
   "dAGOGI POLI ARGI,eARGOTERI,eARGI,eMETRIA,eMESI,eGORGI,eGORGOTERI,ePOLI GORGI,",
   "dMARTYRIA PROTOS ICHOS,ecALLI ,ebDEYTEROS ,ecALLI ,ebTRITOS ,eTRIFONIAS,eTETARTOS ICHOS,",
   "fbLEGETOS ,ec,ebPLAGIOS ,dISAKIA TELOUS ICHIMATOS,dcAPOSTROFOI ,dFANEROSIS TETRAFONIAS,",
   "eMONOFONIAS,eDIFONIAS,dMARTYRIA VARYS ICHOS,ebPROTOVARYS ,ebPLAGIOS TETARTOS ,",
   "dGORTHMIKON N APLOUN,fDIPLOUN,dENARXIS KAI FTHORA VOU,dIMIFONON,dIMIFTHORON,",
   "dFTHORA ARCHAION DEYTEROU ICHOU,eDIATONIKI PA,fNANA,eNAOS ICHOS,eDIATONIKI DI,",
   "ebSKLIRON DIATONON ,eDIATONIKI KE,fZO,fNI KATO,gANO,eMALAKON CHROMA DIFONIAS,gMONOFONIAS,",
   "dFHTORA SKLIRON CHROMA VASIS,0ddFTHORA ,gSYNAFI,eNENANO,dCHROA ZYGOS,eKLITON,eSPATHI,",
   "dFTHORA I YFESIS TETARTIMORION,eENARMONIOS ANTIFONIA,dYFESIS TRITIMORION,dbDIESIS ,",
   "eTETARTIMORION,eAPLI DYO DODEKATA,ebMONOGRAMMOS TESSERA ,ebDIGRAMMOS EX ,ebTRIGRAMMOS OKTO ,",
   "dbYFESIS APLI DYO ,ebMONOGRAMMOS TESSERA ,ebDIGRAMMOS EX ,ebTRIGRAMMOS OKTO ,dGENIKI DIESIS,",
   "eYFESIS,dDIASTOLI APLI MIKRI,fMEGALI,eDIPLI,eTHESEOS,dbSIMANSIS ,eTHESEOS DISIMOU,fTRISIMOU,",
   "fTETRASIMOU,eARSEOS,eARSEOS DISIMOU,fTRISIMOU,fTETRASIMOU,dDIGRAMMA GG,dDIFTOGGOS OU,dSTIGMA,",
   "dARKTIKO PA,eVOU,eGA,eDI,eKE,eZO,eNI,dKENTIMATA NEO MESO,dcKENTIMA ,dKENTIMATA NEO KATO,",
   "dcKENTIMA ,dbKLASMA ,dbGORGON NEO ,BaMUSICAL SYMBOL SINGLE BARLINE,cbDOUBLE ,cbFINAL ,",
   "ccREVERSE ,cbDASHED ,cbSHORT ,cLEFT REPEAT SIGN,ccRIGHT ,cREPEAT DOTS,cDAL SEGNO,cDA CAPO,",
   "cSEGNO,cCODA,cREPEATED FIGURE-1,e2,e3,cFERMATA,cFERMATA BELOW,cBREATH MARK,cCAESURA,cBRACE,",
   "cBRACKET,cONE-LINE STAFF,ccTWO-,ccTHREE-,ccFOUR-,ccFIVE-,ccSIX-,dSTRING FRETBOARD,ccFOUR-,",
   "cG CLEF,dCLEF OTTAVA ALTA,fBASSA,cC CLEF,cbF ,dCLEF OTTAVA ALTA,fBASSA,cDRUM CLEF-1,e2,",
   "3cMULTIPLE MEASURE REST,cDOUBLE SHARP,dFLAT,cFLAT UP,dDOWN,cNATURAL UP,dDOWN,cSHARP UP,dDOWN,",
   "cQUARTER TONE SHARP,eFLAT,cCOMMON TIME,cbCUT ,cOTTAVA ALTA,dBASSA,cQUINDICESIMA ALTA,dBASSA,",
   "cMULTI REST,cbWHOLE ,cbHALF ,cbQUARTER ,cbEIGHTH ,cbSIXTEENTH ,cbTHIRTY-SECOND ,",
   "cbSIXTY-FOURTH ,cbONE HUNDRED TWENTY-EIGHTH ,cX NOTEHEAD,cbPLUS ,cbCIRCLE X ,",
   "cSQUARE NOTEHEAD WHITE,eBLACK,cTRIANGLE NOTEHEAD UP WHITE,fBLACK,eLEFT WHITE,fBLACK,",
   "eRIGHT WHITE,fBLACK,eDOWN WHITE,fBLACK,eUP RIGHT WHITE,gBLACK,cMOON NOTEHEAD WHITE,eBLACK,",
   "cTRIANGLE-ROUND NOTEHEAD DOWN WHITE,gBLACK,cPARENTHESIS NOTEHEAD,cbVOID ,cNOTEHEAD BLACK,",
   "cNULL NOTEHEAD,cCLUSTER NOTEHEAD WHITE,eBLACK,cBREVE,cWHOLE NOTE,cbHALF ,cbQUARTER ,cbEIGHTH ,",
   "cbSIXTEENTH ,cbTHIRTY-SECOND ,cbSIXTY-FOURTH ,cbONE HUNDRED TWENTY-EIGHTH ,cCOMBINING STEM,",
   "dbSPRECHGESANG ,dTREMOLO-1,e2,e3,cFINGERED TREMOLO-1,e2,e3,cCOMBINING AUGMENTATION DOT,",
   "dFLAG-1,e2,e3,e4,e5,cBEGIN BEAM,cbEND ,cBEGIN TIE,cbEND ,cBEGIN SLUR,cbEND ,cBEGIN PHRASE,",
   "cbEND ,cCOMBINING ACCENT,dSTACCATO,dTENUTO,dSTACCATISSIMO,dMARCATO,dMARCATO-STACCATO,",
   "dbACCENT-,dLOURE,cARPEGGIATO UP,dDOWN,cCOMBINING DOIT,dRIP,dFLIP,dSMEAR,dBEND,dDOUBLE TONGUE,",
   "dbTRIPLE ,cRINFORZANDO,cSUBITO,cZ,cPIANO,cMEZZO,cFORTE,cCRESCENDO,cDECRESCENDO,",
   "cGRACE NOTE SLASH,ebNO ,cTR,cTURN,cbINVERTED ,cTURN SLASH,dUP,cORNAMENT STROKE-1,e2,e3,e4,e5,",
   "e6,e7,e8,e9,e10,e11,cHAUPTSTIMME,cNEBENSTIMME,cEND OF STIMME,cDEGREE SLASH,",
   "cCOMBINING DOWN BOW,dbUP ,dHARMONIC,dSNAP PIZZICATO,cPEDAL MARK,dbUP ,cbHALF PEDAL ,",
   "cGLISSANDO UP,dDOWN,cWITH FINGERNAILS,cDAMP,cDAMP ALL,cMAXIMA,cLONGA,cBREVIS,",
   "cSEMIBREVIS WHITE,dBLACK,cMINIMA,cMINIMA BLACK,cSEMIMINIMA WHITE,dBLACK,cFUSA WHITE,dBLACK,",
   "cLONGA PERFECTA REST,dbIMPERFECTA ,cbBREVIS ,cbSEMIBREVIS ,cbMINIMA ,cbSEMIMINIMA ,",
   "cTEMPUS PERFECTUM CUM PROLATIONE PERFECTA,gIMPERFECTA,gPERFECTA DIMINUTION-1,",
   "dIMPERFECTUM CUM PROLATIONE PERFECTA,gIMPERFECTA,gIMPERFECTA DIMINUTION-1,i2,i3,cCROIX,",
   "cGREGORIAN C CLEF,dbF ,cSQUARE B,cVIRGA,cPODATUS,cCLIVIS,cSCANDICUS,cCLIMACUS,cTORCULUS,",
   "cPORRECTUS,cPORRECTUS FLEXUS,cbSCANDICUS ,cTORCULUS RESUPINUS,cPES SUBPUNCTIS,cKIEVAN C CLEF,",
   "dEND OF PIECE,dFINAL NOTE,dRECITATIVE MARK,dWHOLE NOTE,dbHALF ,dQUARTER NOTE STEM DOWN,gUP,",
   "dEIGHTH NOTE STEM DOWN,gUP,dFLAT SIGN,cSORI,cKORON,16aGREEK VOCAL NOTATION SYMBOL-1,e2,e3,e4,",
   "e5,e6,e7,e8,e9,e10,e11,e12,e13,e14,e15,e16,e17,e18,e19,e20,e21,e22,e23,e24,e50,e51,e52,e53,",
   "e54,bINSTRUMENTAL NOTATION SYMBOL-1,e2,e4,e5,e7,e8,e11,e12,e13,e14,e17,e18,e19,e23,e24,e25,",
   "e26,e27,e29,e30,e32,e36,e37,e38,e39,e40,e42,e43,e45,e47,e48,e49,e50,e51,e52,e53,e54,",
   "aCOMBINING GREEK MUSICAL TRISEME,dTETRASEME,dPENTASEME,aGREEK MUSICAL LEIMMA,",
   "9BaMAYAN NUMERAL ZERO,cONE,cTWO,cTHREE,cFOUR,cFIVE,cSIX,cSEVEN,cEIGHT,cNINE,cTEN,cELEVEN,",
   "cTWELVE,cTHIRTEEN,cFOURTEEN,cFIFTEEN,cSIXTEEN,cSEVENTEEN,cEIGHTEEN,cNINETEEN,",
   "DaMONOGRAM FOR EARTH,abDIGRAM FOR HEAVENLY ,cbHUMAN ,cEARTHLY HEAVEN,dHUMAN,cEARTH,",
   "aTETRAGRAM FOR CENTRE,cFULL CIRCLE,cMIRED,cBARRIER,cKEEPING SMALL,cCONTRARIETY,cASCENT,",
   "cOPPOSITION,cBRANCHING OUT,cDEFECTIVENESS OR DISTORTION,cDIVERGENCE,cYOUTHFULNESS,cINCREASE,",
   "cPENETRATION,cREACH,cCONTACT,cHOLDING BACK,cWAITING,cFOLLOWING,cADVANCE,cRELEASE,cRESISTANCE,",
   "cEASE,cJOY,cCONTENTION,cENDEAVOUR,cDUTIES,cCHANGE,cDECISIVENESS,cBOLD RESOLUTION,cPACKING,",
   "cLEGION,cCLOSENESS,cKINSHIP,cGATHERING,cSTRENGTH,cPURITY,cFULLNESS,cRESIDENCE,cLAW OR MODEL,",
   "cRESPONSE,cGOING TO MEET,cENCOUNTERS,cSTOVE,cGREATNESS,cENLARGEMENT,cPATTERN,cRITUAL,cFLIGHT,",
   "cVASTNESS OR WASTING,cCONSTANCY,cMEASURE,cETERNITY,cUNITY,cDIMINISHMENT,cCLOSED MOUTH,",
   "cGUARDEDNESS,cGATHERING IN,cMASSING,cACCUMULATION,cEMBELLISHMENT,cDOUBT,cWATCH,cSINKING,",
   "cINNER,cDEPARTURE,cDARKENING,cDIMMING,cEXHAUSTION,cSEVERANCE,cSTOPPAGE,cHARDNESS,cCOMPLETION,",
   "cCLOSURE,cFAILURE,cAGGRAVATION,cCOMPLIANCE,cON THE VERGE,cDIFFICULTIES,cLABOURING,cFOSTERING,",
   "AaCOUNTING ROD UNIT DIGIT ONE,eTWO,eTHREE,eFOUR,eFIVE,eSIX,eSEVEN,eEIGHT,eNINE,",
   "cTENS DIGIT ONE,eTWO,eTHREE,eFOUR,eFIVE,eSIX,eSEVEN,eEIGHT,eNINE,aIDEOGRAPHIC TALLY MARK ONE,",
   "dTWO,dTHREE,dFOUR,dFIVE,aTALLY MARK ONE,cFIVE,88aMATHEMATICAL BOLD CAPITAL A,dB,dC,dD,dE,dF,",
   "dG,dH,dI,dJ,dK,dL,dM,dN,dO,dP,dQ,dR,dS,dT,dU,dV,dW,dX,dY,dZ,cSMALL A,dB,dC,dD,dE,dF,dG,dH,dI,",
   "dJ,dK,dL,dM,dN,dO,dP,dQ,dR,dS,dT,dU,dV,dW,dX,dY,dZ,bITALIC CAPITAL A,dB,dC,dD,dE,dF,dG,dH,dI,",
   "dJ,dK,dL,dM,dN,dO,dP,dQ,dR,dS,dT,dU,dV,dW,dX,dY,dZ,cSMALL A,dB,dC,dD,dE,dF,dG,2dI,dJ,dK,dL,dM,",
   "dN,dO,dP,dQ,dR,dS,dT,dU,dV,dW,dX,dY,dZ,bBOLD ITALIC CAPITAL A,eB,eC,eD,eE,eF,eG,eH,eI,eJ,eK,",
   "eL,eM,eN,eO,eP,eQ,eR,eS,eT,eU,eV,eW,eX,eY,eZ,dSMALL A,eB,eC,eD,eE,eF,eG,eH,eI,eJ,eK,eL,eM,eN,",
   "eO,eP,eQ,eR,eS,eT,eU,eV,eW,eX,eY,eZ,bSCRIPT CAPITAL A,2dC,dD,3dG,3dJ,dK,3dN,dO,dP,dQ,2dS,dT,",
   "dU,dV,dW,dX,dY,dZ,cSMALL A,dB,dC,dD,2dF,2dH,dI,dJ,dK,dL,dM,dN,2dP,dQ,dR,dS,dT,dU,dV,dW,dX,dY,",
   "dZ,bBOLD SCRIPT CAPITAL A,eB,eC,eD,eE,eF,eG,eH,eI,eJ,eK,eL,eM,eN,eO,eP,eQ,eR,eS,eT,eU,eV,eW,",
   "eX,eY,eZ,dSMALL A,eB,eC,eD,eE,eF,eG,eH,eI,eJ,eK,eL,eM,eN,eO,eP,eQ,eR,eS,eT,eU,eV,eW,eX,eY,eZ,",
   "bFRAKTUR CAPITAL A,dB,2dD,dE,dF,dG,3dJ,dK,dL,dM,dN,dO,dP,dQ,2dS,dT,dU,dV,dW,dX,dY,2cSMALL A,",
   "dB,dC,dD,dE,dF,dG,dH,dI,dJ,dK,dL,dM,dN,dO,dP,dQ,dR,dS,dT,dU,dV,dW,dX,dY,dZ,",
   "bDOUBLE-STRUCK CAPITAL A,eB,2eD,eE,eF,eG,2eI,eJ,eK,eL,eM,2eO,4eS,eT,eU,eV,eW,eX,eY,2dSMALL A,",
   "eB,eC,eD,eE,eF,eG,eH,eI,eJ,eK,eL,eM,eN,eO,eP,eQ,eR,eS,eT,eU,eV,eW,eX,eY,eZ,",
   "bBOLD FRAKTUR CAPITAL A,eB,eC,eD,eE,eF,eG,eH,eI,eJ,eK,eL,eM,eN,eO,eP,eQ,eR,eS,eT,eU,eV,eW,eX,",
   "eY,eZ,dSMALL A,eB,eC,eD,eE,eF,eG,eH,eI,eJ,eK,eL,eM,eN,eO,eP,eQ,eR,eS,eT,eU,eV,eW,eX,eY,eZ,",
   "bSANS-SERIF CAPITAL A,eB,eC,eD,eE,eF,eG,eH,eI,eJ,eK,eL,eM,eN,eO,eP,eQ,eR,eS,eT,eU,eV,eW,eX,eY,",
   "eZ,dSMALL A,eB,eC,eD,eE,eF,eG,eH,eI,eJ,eK,eL,eM,eN,eO,eP,eQ,eR,eS,eT,eU,eV,eW,eX,eY,eZ,",
   "dBOLD CAPITAL A,fB,fC,fD,fE,fF,fG,fH,fI,fJ,fK,fL,fM,fN,fO,fP,fQ,fR,fS,fT,fU,fV,fW,fX,fY,fZ,",
   "eSMALL A,fB,fC,fD,fE,fF,fG,fH,fI,fJ,fK,fL,fM,fN,fO,fP,fQ,fR,fS,fT,fU,fV,fW,fX,fY,fZ,",
   "dITALIC CAPITAL A,fB,fC,fD,fE,fF,fG,fH,fI,fJ,fK,fL,fM,fN,fO,fP,fQ,fR,fS,fT,fU,fV,fW,fX,fY,fZ,",
   "eSMALL A,fB,fC,fD,fE,fF,fG,fH,fI,fJ,fK,fL,fM,fN,fO,fP,fQ,fR,fS,fT,fU,fV,fW,fX,fY,fZ,",
   "dBOLD ITALIC CAPITAL A,gB,gC,gD,gE,gF,gG,gH,gI,gJ,gK,gL,gM,gN,gO,gP,gQ,gR,gS,gT,gU,gV,gW,gX,",
   "gY,gZ,fSMALL A,gB,gC,gD,gE,gF,gG,gH,gI,gJ,gK,gL,gM,gN,gO,gP,gQ,gR,gS,gT,gU,gV,gW,gX,gY,gZ,",
   "bMONOSPACE CAPITAL A,dB,dC,dD,dE,dF,dG,dH,dI,dJ,dK,dL,dM,dN,dO,dP,dQ,dR,dS,dT,dU,dV,dW,dX,dY,",
   "dZ,cSMALL A,dB,dC,dD,dE,dF,dG,dH,dI,dJ,dK,dL,dM,dN,dO,dP,dQ,dR,dS,dT,dU,dV,dW,dX,dY,dZ,",
   "bITALIC SMALL DOTLESS I,eJ,3bBOLD CAPITAL ALPHA,dBETA,dGAMMA,dDELTA,dEPSILON,dZETA,dETA,",
   "dTHETA,dIOTA,dKAPPA,dLAMDA,dMU,dNU,dXI,dOMICRON,dPI,dRHO,dTHETA SYMBOL,dSIGMA,dTAU,dUPSILON,",
   "dPHI,dCHI,dPSI,dOMEGA,cNABLA,cSMALL ALPHA,dBETA,dGAMMA,dDELTA,dEPSILON,dZETA,dETA,dTHETA,",
   "dIOTA,dKAPPA,dLAMDA,dMU,dNU,dXI,dOMICRON,dPI,dRHO,dFINAL SIGMA,db,dTAU,dUPSILON,dPHI,dCHI,",
   "dPSI,dOMEGA,cPARTIAL DIFFERENTIAL,cEPSILON SYMBOL,cbTHETA ,cbKAPPA ,cbPHI ,cbRHO ,cbPI ,",
   "bITALIC CAPITAL ALPHA,dBETA,dGAMMA,dDELTA,dEPSILON,dZETA,dETA,dTHETA,dIOTA,dKAPPA,dLAMDA,dMU,",
   "dNU,dXI,dOMICRON,dPI,dRHO,dTHETA SYMBOL,dSIGMA,dTAU,dUPSILON,dPHI,dCHI,dPSI,dOMEGA,cNABLA,",
   "cSMALL ALPHA,dBETA,dGAMMA,dDELTA,dEPSILON,dZETA,dETA,dTHETA,dIOTA,dKAPPA,dLAMDA,dMU,dNU,dXI,",
   "dOMICRON,dPI,dRHO,dFINAL SIGMA,db,dTAU,dUPSILON,dPHI,dCHI,dPSI,dOMEGA,cPARTIAL DIFFERENTIAL,",
   "cEPSILON SYMBOL,cbTHETA ,cbKAPPA ,cbPHI ,cbRHO ,cbPI ,bBOLD ITALIC CAPITAL ALPHA,eBETA,eGAMMA,",
   "eDELTA,eEPSILON,eZETA,eETA,eTHETA,eIOTA,eKAPPA,eLAMDA,eMU,eNU,eXI,eOMICRON,ePI,eRHO,",
   "eTHETA SYMBOL,eSIGMA,eTAU,eUPSILON,ePHI,eCHI,ePSI,eOMEGA,dNABLA,dSMALL ALPHA,eBETA,eGAMMA,",
   "eDELTA,eEPSILON,eZETA,eETA,eTHETA,eIOTA,eKAPPA,eLAMDA,eMU,eNU,eXI,eOMICRON,ePI,eRHO,",
   "eFINAL SIGMA,eb,eTAU,eUPSILON,ePHI,eCHI,ePSI,eOMEGA,dPARTIAL DIFFERENTIAL,dEPSILON SYMBOL,",
   "dbTHETA ,dbKAPPA ,dbPHI ,dbRHO ,dbPI ,bSANS-SERIF BOLD CAPITAL ALPHA,fBETA,fGAMMA,fDELTA,",
   "fEPSILON,fZETA,fETA,fTHETA,fIOTA,fKAPPA,fLAMDA,fMU,fNU,fXI,fOMICRON,fPI,fRHO,fTHETA SYMBOL,",
   "fSIGMA,fTAU,fUPSILON,fPHI,fCHI,fPSI,fOMEGA,eNABLA,eSMALL ALPHA,fBETA,fGAMMA,fDELTA,fEPSILON,",
   "fZETA,fETA,fTHETA,fIOTA,fKAPPA,fLAMDA,fMU,fNU,fXI,fOMICRON,fPI,fRHO,fFINAL SIGMA,fb,fTAU,",
   "fUPSILON,fPHI,fCHI,fPSI,fOMEGA,ePARTIAL DIFFERENTIAL,eEPSILON SYMBOL,ebTHETA ,ebKAPPA ,ebPHI ,",
   "ebRHO ,ebPI ,eITALIC CAPITAL ALPHA,gBETA,gGAMMA,gDELTA,gEPSILON,gZETA,gETA,gTHETA,gIOTA,",
   "gKAPPA,gLAMDA,gMU,gNU,gXI,gOMICRON,gPI,gRHO,gTHETA SYMBOL,gSIGMA,gTAU,gUPSILON,gPHI,gCHI,gPSI,",
   "gOMEGA,fNABLA,fSMALL ALPHA,gBETA,gGAMMA,gDELTA,gEPSILON,gZETA,gETA,gTHETA,gIOTA,gKAPPA,gLAMDA,",
   "gMU,gNU,gXI,gOMICRON,gPI,gRHO,gFINAL SIGMA,gb,gTAU,gUPSILON,gPHI,gCHI,gPSI,gOMEGA,",
   "fPARTIAL DIFFERENTIAL,fEPSILON SYMBOL,fbTHETA ,fbKAPPA ,fbPHI ,fbRHO ,fbPI ,",
   "bBOLD CAPITAL DIGAMMA,cbSMALL ,3cDIGIT ZERO,dONE,dTWO,dTHREE,dFOUR,dFIVE,dSIX,dSEVEN,dEIGHT,",
   "dNINE,bDOUBLE-STRUCK DIGIT ZERO,eONE,eTWO,eTHREE,eFOUR,eFIVE,eSIX,eSEVEN,eEIGHT,eNINE,",
   "bSANS-SERIF DIGIT ZERO,eONE,eTWO,eTHREE,eFOUR,eFIVE,eSIX,eSEVEN,eEIGHT,eNINE,dBOLD DIGIT ZERO,",
   "fONE,fTWO,fTHREE,fFOUR,fFIVE,fSIX,fSEVEN,fEIGHT,fNINE,bMONOSPACE DIGIT ZERO,dONE,dTWO,dTHREE,",
   "dFOUR,dFIVE,dSIX,dSEVEN,dEIGHT,dNINE,aSIGNWRITING HAND-FIST INDEX,cbCIRCLE ,cbCUP ,cbOVAL ,",
   "cbHINGE ,cbANGLE ,cFIST INDEX BENT,ccCIRCLE ,ccFIST THUMB UNDER ,dINDEX RAISED KNUCKLE,",
   "eCUPPED,eHINGED,eHINGED LOW,cCIRCLE INDEX HINGE,cFIST INDEX MIDDLE,ccCIRCLE ,",
   "cFIST INDEX MIDDLE BENT,fRAISED KNUCKLES,fHINGED,ecUP ,eHINGED MIDDLE UP,eMIDDLE CONJOINED,",
   "fCONJOINED INDEX BENT,gbMIDDLE ,gCUPPED,gHINGED,fCROSSED,cdCIRCLE ,",
   "cFIST MIDDLE BENT OVER INDEX,dINDEX BENT OVER MIDDLE,eMIDDLE THUMB,cdCIRCLE ,",
   "cFIST INDEX MIDDLE STRAIGHT THUMB BENT,fBENT THUMB STRAIGHT,fTHUMB BENT,",
   "fHINGED SPREAD THUMB SIDE,ecUP MIDDLE HINGED ,iCONJOINED,eHINGED MIDDLE UP THUMB SIDE,",
   "eMIDDLE UP SPREAD THUMB FORWARD,fTHUMB CUPPED,gCIRCLED,gHOOKED,gHINGED,",
   "dTHUMB BETWEEN INDEX MIDDLE STRAIGHT,dINDEX MIDDLE CONJOINED THUMB SIDE,hSIDE CONJOINED,iBENT,",
   "dMIDDLE THUMB HOOKED INDEX UP,dbINDEX THUMB HOOKED MIDDLE ,",
   "eMIDDLE CONJOINED HINGED THUMB SIDE,fcCROSSED ,fCONJOINED THUMB FORWARD,gcCUPPED ,",
   "dMIDDLE THUMB CUPPED INDEX UP,dbINDEX THUMB CUPPED MIDDLE ,dbMIDDLE THUMB CIRCLED INDEX ,",
   "hHINGED,dINDEX THUMB ANGLED OUT MIDDLE UP,gcIN ,fcCIRCLED ,eMIDDLE THUMB CONJOINED HINGED,",
   "gANGLED OUT,gANGLED,dMIDDLE THUMB ANGLED OUT INDEX UP,iCROSSED,gINDEX UP,",
   "dINDEX THUMB HOOKED MIDDLE HINGED,cFLAT FOUR FINGERS,eFINGERS BENT,fHINGED,fCONJOINED,",
   "fCONJOINED SPLIT,cCLAW FOUR FINGERS CONJOINED,cFIST FOUR FINGERS CONJOINED BENT,",
   "cHINGE FOUR FINGERS CONJOINED,cFLAT FIVE FINGERS SPREAD,ddHEEL ,",
   "dFIVE FINGERS SPREAD FOUR BENT,dfHEEL ,dbFIVE FINGERS SPREAD ,deHEEL ,",
   "dFIVE FINGERS SPREAD THUMB FORWARD,cCUP FIVE FINGERS SPREAD,fSPREAD OPEN,ceHINGE ,",
   "cOVAL FIVE FINGERS SPREAD,cFLAT FIVE FINGERS SPREAD HINGED,gHINGED THUMB SIDE,hNO THUMB,cFLAT,",
   "cFLAT BETWEEN PALM FACINGS,dHEEL,dTHUMB SIDE,dcHEEL ,dTHUMB BENT,eFORWARD,",
   "dSPLIT INDEX THUMB SIDE,eCENTRE,eCENTRE THUMB SIDE,gSIDE BENT,eLITTLE,cCLAW,cCLAW THUMB SIDE,",
   "dNO THUMB,dTHUMB FORWARD,cHOOK CURLICUE,cHOOK,cCUP OPEN,cCUP,cCUP OPEN THUMB SIDE,dc,",
   "dOPEN NO THUMB,dc,dOPEN THUMB FORWARD,dc,cCURLICUE OPEN,cCURLICUE,cCIRCLE,cOVAL,",
   "cOVAL THUMB SIDE,dNO THUMB,dTHUMB FORWARD,cHINGE OPEN,dOPEN THUMB FORWARD,cHINGE,cHINGE SMALL,",
   "dOPEN THUMB SIDE,dc,dOPEN NO THUMB,dc,dTHUMB SIDE TOUCHING INDEX,eBETWEEN MIDDLE RING,cANGLE,",
   "cFIST INDEX MIDDLE RING,cdCIRCLE ,cdHINGE ,cdANGLE ,cHINGE LITTLE,",
   "cFIST INDEX MIDDLE RING BENT,gCONJOINED,ceHINGE ,cFIST LITTLE DOWN,eDOWN RIPPLE STRAIGHT,",
   "gCURVED,fOTHERS CIRCLED,eUP,dcTHUMB UNDER ,ccCIRCLE ,ccOVAL ,ccANGLE ,",
   "cFIST LITTLE RAISED KNUCKLE,eBENT,eTOUCHES THUMB,eb,ccHINGE ,cbFIST LITTLE INDEX ,cdHINGE ,",
   "cANGLE LITTLE INDEX THUMB INDEX THUMB OUT,hTHUMB,cFIST LITTLE INDEX,ccCIRCLE ,ccHINGE ,",
   "ccANGLE ,cFIST INDEX MIDDLE LITTLE,cdCIRCLE ,cdHINGE ,dRING,cANGLE INDEX MIDDLE LITTLE,",
   "cbFIST INDEX MIDDLE CROSS ,ceCIRCLE ,cFIST RING DOWN,cHINGE RING DOWN INDEX THUMB HOOK MIDDLE,",
   "cANGLE RING DOWN MIDDLE THUMB INDEX CROSS,cFIST RING UP,eRAISED KNUCKLE,eLITTLE,ccCIRCLE ,",
   "ccOVAL ,ccANGLE ,cFIST RING MIDDLE,eMIDDLE CONJOINED,fRAISED KNUCKLES,eINDEX,eTHUMB,ccHOOK ,",
   "cFIST INDEX RING LITTLE,cdCIRCLE ,cCURLICUE INDEX RING LITTLE ON,cHOOK INDEX RING LITTLE OUT,",
   "gIN,gUNDER,cCUP INDEX RING LITTLE,cdHINGE ,cANGLE INDEX RING LITTLE OUT,fLITTLE,",
   "cFIST MIDDLE DOWN,cHINGE MIDDLE,cFIST MIDDLE UP,ccCIRCLE ,cFIST MIDDLE RAISED KNUCKLE,",
   "eUP THUMB SIDE,cHOOK MIDDLE THUMB,cFIST MIDDLE THUMB LITTLE,eb,ebRING ,cdCIRCLE ,",
   "cCURLICUE MIDDLE RING LITTLE ON,cCUP MIDDLE RING LITTLE,cdHINGE ,",
   "cANGLE MIDDLE RING LITTLE OUT,gIN,fLITTLE,cCIRCLE MIDDLE RING LITTLE BENT,",
   "cCLAW MIDDLE RING LITTLE CONJOINED,gCONJOINED SIDE,cHOOK MIDDLE RING LITTLE CONJOINED OUT,hIN,",
   "gCONJOINED,cHINGE INDEX HINGED,cFIST INDEX THUMB SIDE,cdHINGE ,",
   "cFIST INDEX THUMB SIDE THUMB DIAGONAL,hCONJOINED,hBENT,gbINDEX ,gbBOTH ,gINDEX HINGE,",
   "fFORWARD INDEX STRAIGHT,hBENT,fHOOK,fCURLICUE,fCURVE THUMB INSIDE,cfCLAW ,",
   "cFIST INDEX THUMB CURVE THUMB UNDER,fCIRCLE,cCUP INDEX THUMB,eTHUMB OPEN,cdHINGE ,fLARGE,",
   "eTHUMB,eTHUMB SMALL,cANGLE INDEX THUMB OUT,fIN,eTHUMB,cbFIST ,dTHUMB HEEL,eSIDE DIAGONAL,",
   "fCONJOINED,fBENT,eFORWARD,eBETWEEN INDEX MIDDLE,fMIDDLE RING,fRING LITTLE,eUNDER TWO FINGERS,",
   "ecOVER ,ebUNDER THREE ,fbFOUR ,eOVER FOUR RAISED KNUCKLES,cFIST,cFIST HEEL,bTOUCH SINGLE,",
   "cMULTIPLE,cBETWEEN,bGRASP SINGLE,cMULTIPLE,cBETWEEN,bSTRIKE SINGLE,cMULTIPLE,cBETWEEN,",
   "bBRUSH SINGLE,cMULTIPLE,cBETWEEN,bRUB SINGLE,cMULTIPLE,cBETWEEN,bSURFACE SYMBOLS,cBETWEEN,",
   "bSQUEEZE LARGE SINGLE,cbSMALL ,cLARGE MULTIPLE,cbSMALL ,cSEQUENTIAL,bFLICK LARGE SINGLE,",
   "cbSMALL ,cLARGE MULTIPLE,cbSMALL ,cSEQUENTIAL,bSQUEEZE FLICK ALTERNATING,",
   "bMOVEMENT-HINGE UP DOWN LARGE,fSMALL,eSEQUENTIAL,dbDOWN ,dUP DOWN ALTERNATING LARGE,gSMALL,",
   "dSIDE TO SIDE SCISSORS,cWALLPLANE FINGER CONTACT,ccFLOORPLANE ,",
   "cWALLPLANE SINGLE STRAIGHT SMALL,fMEDIUM,fLARGE,fLARGEST,eWRIST FLEX,dDOUBLE STRAIGHT,",
   "eWRIST FLEX,eALTERNATING,eALTERNATING WRIST FLEX,dCROSS,dTRIPLE STRAIGHT MOVEMENT,eWRIST FLEX,",
   "eALTERNATING,eALTERNATING WRIST FLEX,dBEND SMALL,eMEDIUM,eLARGE,dCORNER SMALL,eMEDIUM,eLARGE,",
   "eROTATION,dCHECK SMALL,eMEDIUM,eLARGE,dBOX SMALL,eMEDIUM,eLARGE,dZIGZAG SMALL,eMEDIUM,eLARGE,",
   "dPEAKS SMALL,eMEDIUM,eLARGE,bTRAVEL-WALLPLANE ROTATION-WALLPLANE SINGLE,fDOUBLE,fALTERNATING,",
   "eFLOORPLANE SINGLE,fDOUBLE,fALTERNATING,dSHAKING,dARM SPIRAL SINGLE,fDOUBLE,fTRIPLE,",
   "bMOVEMENT-DIAGONAL AWAY SMALL,eMEDIUM,eLARGE,eLARGEST,dTOWARDS SMALL,eMEDIUM,eLARGE,eLARGEST,",
   "dBETWEEN AWAY SMALL,fMEDIUM,fLARGE,fLARGEST,eTOWARDS SMALL,fMEDIUM,fLARGE,fLARGEST,",
   "cFLOORPLANE SINGLE STRAIGHT SMALL,fMEDIUM,fLARGE,fLARGEST,eWRIST FLEX,dDOUBLE STRAIGHT,",
   "eWRIST FLEX,eALTERNATING,eALTERNATING WRIST FLEX,dCROSS,dTRIPLE STRAIGHT MOVEMENT,eWRIST FLEX,",
   "eALTERNATING MOVEMENT,fWRIST FLEX,dBEND,dCORNER SMALL,eMEDIUM,eLARGE,dCHECK,dBOX SMALL,",
   "eMEDIUM,eLARGE,dZIGZAG SMALL,eMEDIUM,eLARGE,dPEAKS SMALL,eMEDIUM,eLARGE,",
   "bTRAVEL-FLOORPLANE ROTATION-FLOORPLANE SINGLE,fDOUBLE,fALTERNATING,eWALLPLANE SINGLE,fDOUBLE,",
   "fALTERNATING,dSHAKING,bMOVEMENT-WALLPLANE CURVE QUARTER SMALL,fMEDIUM,fLARGE,fLARGEST,",
   "eHALF-CIRCLE SMALL,gMEDIUM,gLARGE,gLARGEST,eTHREE-QUARTER CIRCLE SMALL,hMEDIUM,dHUMP SMALL,",
   "eMEDIUM,eLARGE,dLOOP SMALL,eMEDIUM,eLARGE,eSMALL DOUBLE,dWAVE CURVE DOUBLE SMALL,gMEDIUM,",
   "gLARGE,fTRIPLE SMALL,gMEDIUM,gLARGE,dCURVE THEN STRAIGHT,dCURVED CROSS SMALL,fMEDIUM,",
   "bROTATION-WALLPLANE SINGLE,dDOUBLE,dALTERNATE,bMOVEMENT-WALLPLANE SHAKING,",
   "dCURVE HITTING FRONT WALL,ddHUMP ,ddLOOP ,ddWAVE ,bdROTATION-WALLPLANE SINGLE ,ddDOUBLE ,",
   "ddALTERNATING ,bMOVEMENT-WALLPLANE CURVE HITTING CHEST,dcHUMP ,dcLOOP ,dcWAVE ,",
   "bcROTATION-WALLPLANE SINGLE ,dcDOUBLE ,dcALTERNATING ,",
   "bMOVEMENT-WALLPLANE WAVE DIAGONAL PATH SMALL,gMEDIUM,gLARGE,",
   "cFLOORPLANE CURVE HITTING CEILING SMALL,gLARGE,dHUMP HITTING CEILING SMALL DOUBLE,gbLARGE ,",
   "gSMALL TRIPLE,gbLARGE ,dLOOP HITTING CEILING SMALL SINGLE,gbLARGE ,gSMALL DOUBLE,gbLARGE ,",
   "dWAVE HITTING CEILING SMALL,gLARGE,bROTATION-FLOORPLANE SINGLE HITTING CEILING,dcDOUBLE ,",
   "dcALTERNATING ,bMOVEMENT-FLOORPLANE CURVE HITTING FLOOR SMALL,gLARGE,",
   "dHUMP HITTING FLOOR SMALL DOUBLE,gbLARGE ,gTRIPLE SMALL TRIPLE,hbLARGE ,",
   "dLOOP HITTING FLOOR SMALL SINGLE,gbLARGE ,gSMALL DOUBLE,gbLARGE ,dWAVE HITTING FLOOR SMALL,",
   "gLARGE,bROTATION-FLOORPLANE SINGLE HITTING FLOOR,dcDOUBLE ,dcALTERNATING ,",
   "bMOVEMENT-FLOORPLANE CURVE SMALL,eMEDIUM,eLARGE,eLARGEST,eCOMBINED,dHUMP SMALL,dbLOOP ,",
   "dWAVE SNAKE,eSMALL,eLARGE,bROTATION-FLOORPLANE SINGLE,dDOUBLE,dALTERNATING,",
   "bMOVEMENT-FLOORPLANE SHAKING PARALLEL,cWALLPLANE ARM CIRCLE SMALL SINGLE,fbMEDIUM ,",
   "fSMALL DOUBLE,fbMEDIUM ,cFLOORPLANE ARM CIRCLE HITTING WALL SMALL SINGLE,hbMEDIUM ,hbLARGE ,",
   "hSMALL DOUBLE,hbMEDIUM ,hbLARGE ,cWALLPLANE WRIST CIRCLE FRONT SINGLE,gDOUBLE,",
   "cFLOORPLANE WRIST CIRCLE HITTING WALL SINGLE,hDOUBLE,cWALLPLANE FINGER CIRCLES SINGLE,fDOUBLE,",
   "cFLOORPLANE FINGER CIRCLES HITTING WALL SINGLE,hDOUBLE,bDYNAMIC ARROWHEAD SMALL,dLARGE,cFAST,",
   "cSLOW,cTENSE,cRELAXED,cSIMULTANEOUS,cSIMULTANEOUS ALTERNATING,cEVERY OTHER TIME,cGRADUAL,",
   "bHEAD,bHEAD RIM,cMOVEMENT-WALLPLANE STRAIGHT,eTILT,dFLOORPLANE STRAIGHT,dWALLPLANE CURVE,",
   "dbFLOORPLANE ,cMOVEMENT CIRCLE,bFACE DIRECTION POSITION NOSE FORWARD TILTING,fUP OR DOWN,",
   "hDOWN TILTING,bEYEBROWS STRAIGHT UP,dNEUTRAL,dDOWN,bbDREAMY EYEBROWS NEUTRAL ,dDOWN NEUTRAL,",
   "dbUP ,dNEUTRAL UP,bFOREHEAD NEUTRAL,cCONTACT,cWRINKLED,bEYES OPEN,cSQUEEZED,cCLOSED,",
   "bEYE BLINK SINGLE,dMULTIPLE,bEYES HALF OPEN,cbWIDE ,cHALF CLOSED,cWIDENING MOVEMENT,bEYE WINK,",
   "bEYELASHES UP,cDOWN,cFLUTTERING,bEYEGAZE-WALLPLANE STRAIGHT,dSTRAIGHT DOUBLE,eALTERNATING,",
   "cFLOORPLANE STRAIGHT,dSTRAIGHT DOUBLE,eALTERNATING,cWALLPLANE CURVED,cbFLOORPLANE ,",
   "cWALLPLANE CIRCLING,bCHEEKS PUFFED,cNEUTRAL,cSUCKED,bTENSE CHEEKS HIGH,dMIDDLE,dLOW,bEARS,",
   "bNOSE NEUTRAL,cCONTACT,cWRINKLES,cWIGGLES,bAIR BLOWING OUT,cSUCKING IN,cBLOW SMALL ROTATIONS,",
   "ccSUCK ,bBREATH INHALE,cEXHALE,bMOUTH CLOSED NEUTRAL,dFORWARD,dCONTACT,cSMILE,cSMILE WRINKLED,",
   "dOPEN,cFROWN,cFROWN WRINKLED,dOPEN,cOPEN CIRCLE,dFORWARD,dWRINKLED,dOVAL,dOVAL WRINKLED,eYAWN,",
   "dRECTANGLE,dRECTANGLE WRINKLED,eYAWN,cKISS,cKISS FORWARD,dWRINKLED,cTENSE,cTENSE FORWARD,",
   "dSUCKED,bLIPS PRESSED TOGETHER,bLIP LOWER OVER UPPER,cUPPER OVER LOWER,bMOUTH CORNERS,",
   "cWRINKLES SINGLE,dDOUBLE,bTONGUE STICKING OUT FAR,cLICKING LIPS,cbTIP BETWEEN ,",
   "dTOUCHING INSIDE MOUTH,cINSIDE MOUTH RELAXED,cMOVES AGAINST CHEEK,cCENTRE STICKING OUT,",
   "dINSIDE MOUTH,bTEETH,bTEETH MOVEMENT,cON TONGUE,dTONGUE MOVEMENT,dLIPS,dLIPS MOVEMENT,",
   "cBITE LIPS,bMOVEMENT-WALLPLANE JAW,cbFLOORPLANE ,bNECK,bHAIR,bEXCITEMENT,bSHOULDER HIP SPINE,",
   "dPOSITIONS,bWALLPLANE SHOULDER HIP MOVE,bdFLOORPLANE ,bSHOULDER TILTING FROM WAIST,",
   "bTORSO-WALLPLANE STRAIGHT STRETCH,dCURVED BEND,cFLOORPLANE TWISTING,",
   "bUPPER BODY TILTING FROM HIP JOINTS,bLIMB COMBINATION,cLENGTH-1,d2,d3,d4,d5,d6,d7,bFINGER,",
   "bLOCATION-WALLPLANE SPACE,cbFLOORPLANE ,bLOCATION HEIGHT,cWIDTH,cDEPTH,cHEAD NECK,cTORSO,",
   "cLIMBS DIGITS,bCOMMA,bFULL STOP,bSEMICOLON,bCOLON,bPARENTHESIS,10bFILL MODIFIER-2,d3,d4,d5,d6,",
   "2bROTATION MODIFIER-2,d3,d4,d5,d6,d7,d8,d9,d10,d11,d12,d13,d14,d15,d16,",
   "451aLATIN SMALL LETTER FENG DIGRAPH WITH TRILL,dREVERSED SCRIPT G,",
   "bbLETTER SMALL CAPITAL TURNED ,bSMALL LETTER REVERSED K,bLETTER SMALL CAPITAL L WITH BELT,",
   "bSMALL LETTER LEZH WITH RETROFLEX HOOK,dTURNED Y WITH BELT,dREVERSED ENG,",
   "dTURNED R WITH LONG LEG AND RETROFLEX HOOK,ddT WITH HOOK ,bcLETTER RETROFLEX CLICK WITH ,",
   "bSMALL LETTER ESH WITH DOUBLE BAR,gBAR AND CURL,dbTURNED T WITH ,",
   "bcLETTER INVERTED GLOTTAL STOP ,ccSTRETCHED C ,cSMALL CAPITAL TURNED K,",
   "bSMALL LETTER L WITH FISHHOOK,dDEZH DIGRAPH WITH PALATAL HOOK,dcL WITH BELT AND ,dcENG WITH ,",
   "ddTURNED R ,dcR WITH FISHHOOK AND ,dcTESH DIGRAPH WITH ,ddEZH ,dbDEZH DIGRAPH WITH RETROFLEX ,",
   "dcI WITH STROKE AND ,dcO WITH ,ddTESH DIGRAPH ,ddC ,dS WITH CURL,",
   "E2aCOMBINING GLAGOLITIC LETTER AZU,dBUKY,dVEDE,dGLAGOLI,dDOBRO,dYESTU,dZHIVETE,2dZEMLJA,dIZHE,",
   "dbINITIAL ,dI,dDJERVI,dKAKO,dLJUDIJE,dMYSLITE,dNASHI,dONU,dPOKOJI,dRITSI,dSLOVO,dTVRIDO,dUKU,",
   "dFRITU,dHERU,3dSHTA,dTSI,dCHRIVI,dSHA,dYERU,dYERI,dYATI,2dYU,dSMALL YUS,2dYO,",
   "dIOTATED SMALL YUS,dbBIG ,dcIOTATED ,dFITA,D6aNYIAKENG PUACHUE HMONG LETTER MA,eTSA,eNTA,eTA,",
   "eHA,eNA,eXA,eNKA,eCA,eLA,eSA,eZA,eNCA,eNTSA,eKA,eDA,eNYA,eNRA,eVA,eNTXA,eTXA,eFA,eRA,eQA,eYA,",
   "eNQA,ePA,eXYA,eNPA,eDLA,eNPLA,eHAH,eMLA,ePLA,eGA,eRRA,eA,eAA,eI,eU,eO,eOO,eE,eEE,eW,4dTONE-B,",
   "eM,eJ,eV,eS,eG,eD,dSIGN FOR PERSON,fTHING,fLOCATION,fANIMAL,fINVERTEBRATE,eXW XW,",
   "dSYLLABLE LENGTHENER,3dDIGIT ZERO,eONE,eTWO,eTHREE,eFOUR,eFIVE,eSIX,eSEVEN,eEIGHT,eNINE,",
   "5dLOGOGRAM NYAJ,dCIRCLED CA,141aTOTO LETTER PA,cBA,cTA,cDA,cKA,cGA,cMA,cNA,cNGA,cSA,cCHA,cYA,",
   "cWA,cJA,cHA,cRA,cLA,cI,cbBREATHY ,cIU,cbBREATHY ,cU,cE,cbBREATHY ,cEO,cbBREATHY ,cO,cAE,",
   "cbBREATHY ,cA,bSIGN RISING TONE,12aWANCHO LETTER AA,cA,cBA,cCA,cDA,cGA,cYA,cPHA,cLA,cNA,cPA,",
   "cTA,cTHA,cFA,cSA,cSHA,cJA,cZA,cWA,cVA,cKA,cO,cAU,cRA,cMA,cKHA,cHA,cE,cI,cNGA,cU,cLLHA,cTSA,",
   "cTRA,cONG,cAANG,cANG,cING,cON,cEN,cAAN,cNYA,cUEN,cYIH,bTONE TUP,cTUPNI,cKOI,cKOINI,",
   "bDIGIT ZERO,cONE,cTWO,cTHREE,cFOUR,cFIVE,cSIX,cSEVEN,cEIGHT,cNINE,6bNGUN SIGN,",
   "4E1aETHIOPIC SYLLABLE HHYA,cHHYU,cHHYI,cHHYAA,cHHYEE,cHHYE,cHHYO,2cGURAGE HHWA,cHHWI,cHHWEE,",
   "cHHWE,2cGURAGE MWI,dMWEE,2dQWI,dQWEE,dQWE,dBWI,dBWEE,dKWI,dKWEE,dKWE,dGWI,dGWEE,dGWE,dFWI,",
   "dFWEE,dPWI,dPWEE,2aMENDE KIKAKUI SYLLABLE M001 KI,dM002 KA,dM003 KU,dM065 KEE,dM095 KE,",
   "dM076 KOO,dM048 KO,dM179 KUA,dM004 WI,dM005 WA,dM006 WU,dM126 WEE,dM118 WE,dM114 WOO,dM045 WO,",
   "dM194 WUI,dM143 WEI,dM061 WVI,dM049 WVA,dM139 WVE,dM007 MIN,dM008 MAN,dM009 MUN,dM059 MEN,",
   "dM094 MON,dM154 MUAN,dM189 MUEN,dM010 BI,dM011 BA,dM012 BU,dM150 BEE,dM097 BE,dM103 BOO,",
   "dM138 BO,dM013 I,dM014 A,dM015 U,dM163 EE,dM100 E,dM165 OO,dM147 O,dM137 EI,dM131 IN,dbM135 ,",
   "dM195 AN,dM178 EN,dM019 SI,dM020 SA,dM021 SU,dM162 SEE,dM116 SE,dM136 SOO,dM079 SO,dM196 SIA,",
   "dM025 LI,dM026 LA,dM027 LU,dM084 LEE,dM073 LE,dM054 LOO,dM153 LO,dM110 LONG LE,dM016 DI,",
   "dM017 DA,dM018 DU,dM089 DEE,dM180 DOO,dM181 DO,dM022 TI,dM023 TA,dM024 TU,dM091 TEE,dM055 TE,",
   "dM104 TOO,dM069 TO,dM028 JI,dM029 JA,dM030 JU,dM157 JEE,dM113 JE,dM160 JOO,dM063 JO,",
   "dbM175 LONG ,dM031 YI,dM032 YA,dM033 YU,dM109 YEE,dM080 YE,dM141 YOO,dM121 YO,dM034 FI,",
   "dM035 FA,dM036 FU,dM078 FEE,dM075 FE,dM133 FOO,dM088 FO,dM197 FUA,dM101 FAN,dM037 NIN,",
   "dM038 NAN,dM039 NUN,dM117 NEN,dM169 NON,dM176 HI,dM041 HA,dM186 HU,dM040 HEE,dM096 HE,",
   "dM042 HOO,dM140 HO,dM083 HEEI,dM128 HOOU,dM053 HIN,dM130 HAN,dM087 HUN,dM052 HEN,dM193 HON,",
   "dM046 HUAN,dM090 NGGI,dM043 NGGA,dM082 NGGU,dM115 NGGEE,dM146 NGGE,dM156 NGGOO,dM120 NGGO,",
   "dM159 NGGAA,dM127 NGGUA,dM086 LONG NGGE,dM106 LONG NGGOO,dM183 LONG NGGO,dM155 GI,dM111 GA,",
   "dM168 GU,dM190 GEE,dM166 GUEI,dM167 GUAN,dM184 NGEN,dM057 NGON,dM177 NGUAN,dM068 PI,dM099 PA,",
   "dM050 PU,dM081 PEE,dM051 PE,dM102 POO,dM066 PO,dM145 MBI,dM062 MBA,dM122 MBU,dM047 MBEE,",
   "dbM188 ,dM072 MBE,dM172 MBOO,dM174 MBO,dM187 MBUU,dM161 LONG MBE,dM105 LONG MBOO,",
   "dM142 LONG MBO,dM132 KPI,dM092 KPA,dM074 KPU,dM044 KPEE,dM108 KPE,dM112 KPOO,dM158 KPO,",
   "dM124 GBI,dM056 GBA,dM148 GBU,dM093 GBEE,dM107 GBE,dM071 GBOO,dM070 GBO,dM171 RA,dM123 NDI,",
   "dM129 NDA,dM125 NDU,dM191 NDEE,dM119 NDE,dM067 NDOO,dM064 NDO,dM152 NJA,dM192 NJU,dM149 NJEE,",
   "dM134 NJOO,dM182 VI,dM185 VA,dM151 VU,dM173 VEE,dM085 VE,dM144 VOO,dM077 VO,dM164 NYIN,",
   "dM058 NYAN,dM170 NYUN,dM098 NYEN,dM060 NYON,3cDIGIT ONE,dTWO,dTHREE,dFOUR,dFIVE,dSIX,dSEVEN,",
   "dEIGHT,dNINE,cCOMBINING NUMBER TEENS,eTENS,eHUNDREDS,eTHOUSANDS,ebTEN ,ebHUNDRED ,eMILLIONS,",
   "2AaADLAM CAPITAL LETTER ALIF,dDAALI,dLAAM,dMIIM,dBA,dSINNYIIYHE,dPE,dBHE,dRA,dE,dFA,dI,dO,",
   "dDHA,dYHE,dWAW,dNUN,dKAF,dYA,dU,dJIIM,dCHI,dHA,dQAAF,dGA,dNYA,dTU,dNHA,dVA,dKHA,dGBE,dZAL,",
   "dKPO,dSHA,bSMALL LETTER ALIF,dDAALI,dLAAM,dMIIM,dBA,dSINNYIIYHE,dPE,dBHE,dRA,dE,dFA,dI,dO,",
   "dDHA,dYHE,dWAW,dNUN,dKAF,dYA,dU,dJIIM,dCHI,dHA,dQAAF,dGA,dNYA,dTU,dNHA,dVA,dKHA,dGBE,dZAL,",
   "dKPO,dSHA,bALIF LENGTHENER,bbVOWEL ,bGEMINATION MARK,bHAMZA,bCONSONANT MODIFIER,bcGEMINATE ,",
   "bNUKTA,bNASALIZATION MARK,5bDIGIT ZERO,cONE,cTWO,cTHREE,cFOUR,cFIVE,cSIX,cSEVEN,cEIGHT,cNINE,",
   "5bINITIAL EXCLAMATION MARK,cbQUESTION ,312aINDIC SIYAQ NUMBER ONE,dTWO,dTHREE,dFOUR,dFIVE,",
   "dSIX,dSEVEN,dEIGHT,dNINE,dTEN,dTWENTY,dTHIRTY,dFORTY,dFIFTY,dSIXTY,dSEVENTY,dEIGHTY,dNINETY,",
   "dONE HUNDRED,dbTWO ,dbTHREE ,dbFOUR ,dbFIVE ,dbSIX ,dbSEVEN ,dbEIGHT ,dbNINE ,dONE THOUSAND,",
   "dbTWO ,dbTHREE ,dbFOUR ,dbFIVE ,dbSIX ,dbSEVEN ,dbEIGHT ,dbNINE ,dbTEN ,dbTWENTY ,dbTHIRTY ,",
   "dbFORTY ,dbFIFTY ,dbSIXTY ,dbSEVENTY ,dbEIGHTY ,dbNINETY ,dLAKH,dLAKHAN,cLAKH MARK,",
   "cNUMBER KAROR,dKARORAN,dPREFIXED ONE,eTWO,eTHREE,eFOUR,eFIVE,eSIX,eSEVEN,eEIGHT,eNINE,",
   "cPLACEHOLDER,cFRACTION ONE QUARTER,eHALF,dTHREE QUARTERS,cRUPEE MARK,cNUMBER ALTERNATE ONE,",
   "eTWO,eTEN THOUSAND,cALTERNATE LAKH MARK,4DaOTTOMAN SIYAQ NUMBER ONE,dTWO,dTHREE,dFOUR,dFIVE,",
   "dSIX,dSEVEN,dEIGHT,dNINE,dTEN,dTWENTY,dTHIRTY,dFORTY,dFIFTY,dSIXTY,dSEVENTY,dEIGHTY,dNINETY,",
   "dONE HUNDRED,dbTWO ,dbTHREE ,dbFOUR ,dbFIVE ,dbSIX ,dbSEVEN ,dbEIGHT ,dbNINE ,dONE THOUSAND,",
   "dbTWO ,dbTHREE ,dbFOUR ,dbFIVE ,dbSIX ,dbSEVEN ,dbEIGHT ,dbNINE ,dbTEN ,dbTWENTY ,dbTHIRTY ,",
   "dbFORTY ,dbFIFTY ,dbSIXTY ,dbSEVENTY ,dbEIGHTY ,dbNINETY ,cMARRATAN,cALTERNATE NUMBER TWO,",
   "eTHREE,eFOUR,eFIVE,eSIX,eSEVEN,eEIGHT,eNINE,eTEN,eFOUR HUNDRED,ebSIX ,eTWO THOUSAND,ebTEN ,",
   "cFRACTION ONE HALF,eSIXTH,C3aARABIC MATHEMATICAL ALEF,cBEH,cJEEM,cDAL,2cWAW,cZAIN,cHAH,cTAH,",
   "cYEH,cKAF,cLAM,cMEEM,cNOON,cSEEN,cAIN,cFEH,cSAD,cQAF,cREH,cSHEEN,cTEH,cTHEH,cKHAH,cTHAL,cDAD,",
   "cZAH,cGHAIN,cDOTLESS BEH,dNOON,dFEH,dQAF,2cINITIAL BEH,dJEEM,2dHEH,3dHAH,2dYEH,dKAF,dLAM,",
   "dMEEM,dNOON,dSEEN,dAIN,dFEH,dSAD,dQAF,2dSHEEN,dTEH,dTHEH,dKHAH,2dDAD,2dGHAIN,7cTAILED JEEM,",
   "5dHAH,2dYEH,2dLAM,2dNOON,dSEEN,dAIN,2dSAD,dQAF,2dSHEEN,3dKHAH,2dDAD,2dGHAIN,2dDOTLESS NOON,",
   "2eQAF,2cSTRETCHED BEH,dJEEM,2dHEH,3dHAH,dTAH,dYEH,dKAF,2dMEEM,dNOON,dSEEN,dAIN,dFEH,dSAD,dQAF,",
   "2dSHEEN,dTEH,dTHEH,dKHAH,2dDAD,dZAH,dGHAIN,dDOTLESS BEH,2eFEH,2cLOOPED ALEF,dBEH,dJEEM,dDAL,",
   "dHEH,dWAW,dZAIN,dHAH,dTAH,dYEH,2dLAM,dMEEM,dNOON,dSEEN,dAIN,dFEH,dSAD,dQAF,dREH,dSHEEN,dTEH,",
   "dTHEH,dKHAH,dTHAL,dDAD,dZAH,dGHAIN,6cDOUBLE-STRUCK BEH,eJEEM,eDAL,2eWAW,eZAIN,eHAH,eTAH,eYEH,",
   "2eLAM,eMEEM,eNOON,eSEEN,eAIN,eFEH,eSAD,eQAF,eREH,eSHEEN,eTEH,eTHEH,eKHAH,eTHAL,eDAD,eZAH,",
   "eGHAIN,35cOPERATOR MEEM WITH HAH WITH TATWEEL,dHAH WITH DAL,10FaMAHJONG TILE EAST WIND,",
   "cbSOUTH ,cbWEST ,cbNORTH ,cRED DRAGON,cbGREEN ,cbWHITE ,cONE OF CHARACTERS,ccTWO ,ccTHREE ,",
   "ccFOUR ,ccFIVE ,ccSIX ,ccSEVEN ,ccEIGHT ,ccNINE ,cONE OF BAMBOOS,ccTWO ,ccTHREE ,ccFOUR ,",
   "ccFIVE ,ccSIX ,ccSEVEN ,ccEIGHT ,ccNINE ,cONE OF CIRCLES,ccTWO ,ccTHREE ,ccFOUR ,ccFIVE ,",
   "ccSIX ,ccSEVEN ,ccEIGHT ,ccNINE ,cPLUM,cORCHID,cBAMBOO,cCHRYSANTHEMUM,cSPRING,cSUMMER,cAUTUMN,",
   "cWINTER,cJOKER,cBACK,5abDOMINO TILE HORIZONTAL ,cHORIZONTAL-00-00,e01,e02,e03,e04,e05,e06,",
   "d01-00,e01,e02,e03,e04,e05,e06,d02-00,e01,e02,e03,e04,e05,e06,d03-00,e01,e02,e03,e04,e05,e06,",
   "d04-00,e01,e02,e03,e04,e05,e06,d05-00,e01,e02,e03,e04,e05,e06,d06-00,e01,e02,e03,e04,e05,e06,",
   "cVERTICAL BACK,cVERTICAL-00-00,e01,e02,e03,e04,e05,e06,d01-00,e01,e02,e03,e04,e05,e06,d02-00,",
   "e01,e02,e03,e04,e05,e06,d03-00,e01,e02,e03,e04,e05,e06,d04-00,e01,e02,e03,e04,e05,e06,d05-00,",
   "e01,e02,e03,e04,e05,e06,d06-00,e01,e02,e03,e04,e05,e06,DaPLAYING CARD BACK,cACE OF SPADES,",
   "ccTWO ,ccTHREE ,ccFOUR ,ccFIVE ,ccSIX ,ccSEVEN ,ccEIGHT ,ccNINE ,ccTEN ,ccJACK ,ccKNIGHT ,",
   "ccQUEEN ,ccKING ,3cACE OF HEARTS,ccTWO ,ccTHREE ,ccFOUR ,ccFIVE ,ccSIX ,ccSEVEN ,ccEIGHT ,",
   "ccNINE ,ccTEN ,ccJACK ,ccKNIGHT ,ccQUEEN ,ccKING ,cRED JOKER,2cACE OF DIAMONDS,ccTWO ,",
   "ccTHREE ,ccFOUR ,ccFIVE ,ccSIX ,ccSEVEN ,ccEIGHT ,ccNINE ,ccTEN ,ccJACK ,ccKNIGHT ,ccQUEEN ,",
   "ccKING ,cBLACK JOKER,2cACE OF CLUBS,ccTWO ,ccTHREE ,ccFOUR ,ccFIVE ,ccSIX ,ccSEVEN ,ccEIGHT ,",
   "ccNINE ,ccTEN ,ccJACK ,ccKNIGHT ,ccQUEEN ,ccKING ,cWHITE JOKER,cFOOL,cTRUMP-1,d2,d3,d4,d5,d6,",
   "d7,d8,d9,d10,d11,d12,d13,d14,d15,d16,d17,d18,d19,d20,d21,BaDIGIT ZERO FULL STOP,cCOMMA,bbONE ,",
   "bbTWO ,bbTHREE ,bbFOUR ,bbFIVE ,bbSIX ,bbSEVEN ,bbEIGHT ,bbNINE ,",
   "aDINGBAT CIRCLED SANS-SERIF DIGIT ZERO,bfNEGATIVE ,aCIRCLED ZERO WITH SLASH,",
   "bANTICLOCKWISE ARROW,bDOLLAR SIGN WITH OVERLAID BACKSLASH,",
   "aPARENTHESIZED LATIN CAPITAL LETTER A,eB,eC,eD,eE,eF,eG,eH,eI,eJ,eK,eL,eM,eN,eO,eP,eQ,eR,eS,",
   "eT,eU,eV,eW,eX,eY,eZ,aTORTOISE SHELL BRACKETED LATIN CAPITAL LETTER S,",
   "aCIRCLED ITALIC LATIN CAPITAL LETTER C,fR,bCD,bWZ,aCOPYLEFT SYMBOL,",
   "aSQUARED LATIN CAPITAL LETTER A,eB,eC,eD,eE,eF,eG,eH,eI,eJ,eK,eL,eM,eN,eO,eP,eQ,eR,eS,eT,eU,",
   "eV,eW,eX,eY,eZ,bHV,bMV,bSD,bSS,bPPV,bWC,aNEGATIVE CIRCLED LATIN CAPITAL LETTER A,fB,fC,fD,fE,",
   "fF,fG,fH,fI,fJ,fK,fL,fM,fN,fO,fP,fQ,fR,fS,fT,fU,fV,fW,fX,fY,fZ,aRAISED MC SIGN,bbMD ,bbMR ,",
   "aCIRCLED CC,bC WITH OVERLAID BACKSLASH,bHUMAN FIGURE,aNEGATIVE SQUARED LATIN CAPITAL LETTER A,",
   "fB,fC,fD,fE,fF,fG,fH,fI,fJ,fK,fL,fM,fN,fO,fP,fQ,fR,fS,fT,fU,fV,fW,fX,fY,fZ,",
   "aCROSSED NEGATIVE SQUARED LATIN CAPITAL LETTER P,aNEGATIVE SQUARED IC,cPA,cSA,cAB,cWC,",
   "aSQUARE DJ,aSQUARED CL,bCOOL,bFREE,bID,bNEW,bNG,bOK,bSOS,bUP WITH EXCLAMATION MARK,bVS,",
   "bTHREE D,bSECOND SCREEN,bTWO K,bbFOUR ,bbEIGHT ,bFIVE POINT ONE,bcSEVEN ,",
   "bTWENTY-TWO POINT TWO,bSIXTY P,bbONE HUNDRED TWENTY ,bLATIN SMALL LETTER D,bHC,bHDR,bHI-RES,",
   "bLOSSLESS,bSHV,bUHD,bVOD,aMASK WORK SYMBOL,39aREGIONAL INDICATOR SYMBOL LETTER A,eB,eC,eD,eE,",
   "eF,eG,eH,eI,eJ,eK,eL,eM,eN,eO,eP,eQ,eR,eS,eT,eU,eV,eW,eX,eY,eZ,aSQUARE HIRAGANA HOKA,",
   "aSQUARED KATAKANA KOKO,cSA,EbCJK UNIFIED IDEOGRAPH-624B,e5B57,e53CC,bKATAKANA DE,",
   "bCJK UNIFIED IDEOGRAPH-4E8C,e591A,e89E3,e5929,e4EA4,e6620,e7121,e6599,e524D,e5F8C,e518D,e65B0,",
   "e521D,e7D42,e751F,e8CA9,e58F0,e5439,e6F14,e6295,e6355,e4E00,e4E09,e904A,e5DE6,e4E2D,e53F3,",
   "e6307,e8D70,e6253,e7981,e7A7A,e5408,e6E80,e6709,e6708,e7533,e5272,e55B6,e914D,",
   "5aTORTOISE SHELL BRACKETED CJK UNIFIED IDEOGRAPH-672C,g4E09,g4E8C,g5B89,g70B9,g6253,g76D7,",
   "g52DD,g6557,8aCIRCLED IDEOGRAPH ADVANTAGE,cACCEPT,FaROUNDED SYMBOL FOR FU,dLU,dSHOU,dXI,",
   "dSHUANGXI,dCAI,9BaCYCLONE,aFOGGY,aCLOSED UMBRELLA,aNIGHT WITH STARS,aSUNRISE OVER MOUNTAINS,",
   "aSUNRISE,aCITYSCAPE AT DUSK,aSUNSET OVER BUILDINGS,aRAINBOW,aBRIDGE AT NIGHT,aWATER WAVE,",
   "aVOLCANO,aMILKY WAY,aEARTH GLOBE EUROPE-AFRICA,cAMERICAS,cASIA-AUSTRALIA,",
   "aGLOBE WITH MERIDIANS,aNEW MOON SYMBOL,acWAXING CRESCENT ,acFIRST QUARTER ,acWAXING GIBBOUS ,",
   "acFULL ,acWANING GIBBOUS ,acLAST QUARTER ,acWANING CRESCENT ,aCRESCENT MOON,",
   "aNEW MOON WITH FACE,adFIRST QUARTER ,aeLAST ,adFULL ,acSUN ,aGLOWING STAR,abSHOOTING ,",
   "aTHERMOMETER,aBLACK DROPLET,aWHITE SUN,bSUN WITH SMALL CLOUD,cbBEHIND ,dCLOUD WITH RAIN,ad,",
   "cSNOW,cLIGHTNING,cTORNADO,aFOG,aWIND BLOWING FACE,aHOT DOG,aTACO,aBURRITO,aCHESTNUT,aSEEDLING,",
   "aEVERGREEN TREE,abDECIDUOUS ,abPALM ,aCACTUS,aHOT PEPPER,aTULIP,aCHERRY BLOSSOM,aROSE,",
   "aHIBISCUS,aSUNFLOWER,aBLOSSOM,aEAR OF MAIZE,cRICE,aHERB,aFOUR LEAF CLOVER,aMAPLE LEAF,",
   "abFALLEN ,aLEAF FLUTTERING IN WIND,aMUSHROOM,aTOMATO,aAUBERGINE,aGRAPES,aMELON,aWATERMELON,",
   "aTANGERINE,aLEMON,aBANANA,aPINEAPPLE,aRED APPLE,abGREEN ,aPEAR,aPEACH,aCHERRIES,aSTRAWBERRY,",
   "aHAMBURGER,aSLICE OF PIZZA,aMEAT ON BONE,aPOULTRY LEG,aRICE CRACKER,bBALL,aCOOKED RICE,",
   "abCURRY AND ,aSTEAMING BOWL,aSPAGHETTI,aBREAD,aFRENCH FRIES,aROASTED SWEET POTATO,aDANGO,",
   "aODEN,aSUSHI,aFRIED SHRIMP,aFISH CAKE WITH SWIRL DESIGN,aSOFT ICE CREAM,aSHAVED ICE,",
   "aICE CREAM,aDOUGHNUT,aCOOKIE,aCHOCOLATE BAR,aCANDY,aLOLLIPOP,aCUSTARD,aHONEY POT,aSHORTCAKE,",
   "aBENTO BOX,aPOT OF FOOD,aCOOKING,aFORK AND KNIFE,aTEACUP WITHOUT HANDLE,aSAKE BOTTLE AND CUP,",
   "aWINE GLASS,abCOCKTAIL ,aTROPICAL DRINK,aBEER MUG,aCLINKING BEER MUGS,aBABY BOTTLE,",
   "aFORK AND KNIFE WITH PLATE,aBOTTLE WITH POPPING CORK,aPOPCORN,aRIBBON,aWRAPPED PRESENT,",
   "aBIRTHDAY CAKE,aJACK-O-LANTERN,aCHRISTMAS TREE,aFATHER CHRISTMAS,aFIREWORKS,",
   "aFIREWORK SPARKLER,aBALLOON,aPARTY POPPER,aCONFETTI BALL,aTANABATA TREE,aCROSSED FLAGS,",
   "aPINE DECORATION,aJAPANESE DOLLS,aCARP STREAMER,aWIND CHIME,aMOON VIEWING CEREMONY,",
   "aSCHOOL SATCHEL,aGRADUATION CAP,aHEART WITH TIP ON THE LEFT,aBOUQUET OF FLOWERS,",
   "aMILITARY MEDAL,aREMINDER RIBBON,aMUSICAL KEYBOARD WITH JACKS,aSTUDIO MICROPHONE,",
   "aLEVEL SLIDER,aCONTROL KNOBS,aBEAMED ASCENDING MUSICAL NOTES,bcDESCENDING ,aFILM FRAMES,",
   "aADMISSION TICKETS,aCAROUSEL HORSE,aFERRIS WHEEL,aROLLER COASTER,aFISHING POLE AND FISH,",
   "aMICROPHONE,aMOVIE CAMERA,aCINEMA,aHEADPHONE,aARTIST PALETTE,aTOP HAT,aCIRCUS TENT,aTICKET,",
   "aCLAPPER BOARD,aPERFORMING ARTS,aVIDEO GAME,aDIRECT HIT,aSLOT MACHINE,aBILLIARDS,aGAME DIE,",
   "aBOWLING,aFLOWER PLAYING CARDS,aMUSICAL NOTE,aMULTIPLE MUSICAL NOTES,aSAXOPHONE,aGUITAR,",
   "aMUSICAL KEYBOARD,aTRUMPET,aVIOLIN,aMUSICAL SCORE,aRUNNING SHIRT WITH SASH,",
   "aTENNIS RACQUET AND BALL,aSKI AND SKI BOOT,aBASKETBALL AND HOOP,aCHEQUERED FLAG,aSNOWBOARDER,",
   "aRUNNER,aSURFER,aSPORTS MEDAL,aTROPHY,aHORSE RACING,aAMERICAN FOOTBALL,abRUGBY ,aSWIMMER,",
   "aWEIGHT LIFTER,aGOLFER,aRACING MOTORCYCLE,bCAR,aCRICKET BAT AND BALL,aVOLLEYBALL,",
   "aFIELD HOCKEY STICK AND BALL,aICE HOCKEY STICK AND PUCK,aTABLE TENNIS PADDLE AND BALL,",
   "aSNOW CAPPED MOUNTAIN,aCAMPING,aBEACH WITH UMBRELLA,aBUILDING CONSTRUCTION,aHOUSE BUILDINGS,",
   "aCITYSCAPE,aDERELICT HOUSE BUILDING,abCLASSICAL ,aDESERT,aDESERT ISLAND,aNATIONAL PARK,",
   "aSTADIUM,aHOUSE BUILDING,bWITH GARDEN,aOFFICE BUILDING,aJAPANESE POST OFFICE,acEUROPEAN ,",
   "aHOSPITAL,aBANK,aAUTOMATED TELLER MACHINE,aHOTEL,abLOVE ,aCONVENIENCE STORE,aSCHOOL,",
   "aDEPARTMENT STORE,aFACTORY,aIZAKAYA LANTERN,aJAPANESE CASTLE,abEUROPEAN ,aWHITE PENNANT,",
   "abBLACK ,aWAVING WHITE FLAG,bbBLACK ,aROSETTE,abBLACK ,aLABEL,",
   "aBADMINTON RACQUET AND SHUTTLECOCK,aBOW AND ARROW,aAMPHORA,",
   "aEMOJI MODIFIER FITZPATRICK TYPE-1-2,e3,e4,e5,e6,aRAT,aMOUSE,aOX,aWATER BUFFALO,aCOW,aTIGER,",
   "aLEOPARD,aRABBIT,aCAT,aDRAGON,aCROCODILE,aWHALE,aSNAIL,aSNAKE,aHORSE,aRAM,aGOAT,aSHEEP,",
   "aMONKEY,aROOSTER,aCHICKEN,aDOG,aPIG,aBOAR,aELEPHANT,aOCTOPUS,aSPIRAL SHELL,aBUG,aANT,",
   "aHONEYBEE,aLADY BEETLE,aFISH,abTROPICAL ,aBLOWFISH,aTURTLE,aHATCHING CHICK,abBABY ,",
   "acFRONT-FACING ,aBIRD,aPENGUIN,aKOALA,aPOODLE,aDROMEDARY CAMEL,abBACTRIAN ,aDOLPHIN,",
   "aMOUSE FACE,abCOW ,abTIGER ,abRABBIT ,abCAT ,abDRAGON ,aSPOUTING WHALE,aHORSE FACE,abMONKEY ,",
   "abDOG ,abPIG ,abFROG ,abHAMSTER ,abWOLF ,abBEAR ,abPANDA ,aPIG NOSE,aPAW PRINTS,aCHIPMUNK,",
   "aEYES,aEYE,aEAR,aNOSE,aMOUTH,aTONGUE,aWHITE UP POINTING BACKHAND INDEX,bdDOWN ,bdLEFT ,",
   "bdRIGHT ,aFISTED HAND SIGN,acWAVING ,acOK ,abTHUMBS UP ,bbDOWN ,abCLAPPING HANDS ,acOPEN ,",
   "aCROWN,aWOMANS HAT,aEYEGLASSES,aNECKTIE,aT-SHIRT,aJEANS,aDRESS,aKIMONO,aBIKINI,",
   "aWOMANS CLOTHES,aPURSE,aHANDBAG,aPOUCH,aMANS SHOE,abATHLETIC ,abHIGH-HEELED ,aWOMANS SANDAL,",
   "bBOOTS,aFOOTPRINTS,aBUST IN SILHOUETTE,acBUSTS ,aBOY,aGIRL,aMAN,aWOMAN,aFAMILY,",
   "aMAN AND WOMAN HOLDING HANDS,acTWO MEN ,bcWOMEN ,aPOLICE OFFICER,aWOMAN WITH BUNNY EARS,",
   "aBRIDE WITH VEIL,aPERSON WITH BLOND HAIR,aMAN WITH GUA PI MAO,cTURBAN,aOLDER MAN,bWOMAN,aBABY,",
   "aCONSTRUCTION WORKER,aPRINCESS,aJAPANESE OGRE,bGOBLIN,aGHOST,aBABY ANGEL,",
   "aEXTRATERRESTRIAL ALIEN,aALIEN MONSTER,aIMP,aSKULL,aINFORMATION DESK PERSON,aGUARDSMAN,",
   "aDANCER,aLIPSTICK,aNAIL POLISH,aFACE MASSAGE,aHAIRCUT,aBARBER POLE,aSYRINGE,aPILL,aKISS MARK,",
   "aLOVE LETTER,aRING,aGEM STONE,aKISS,aBOUQUET,aCOUPLE WITH HEART,aWEDDING,aBEATING HEART,",
   "abBROKEN ,aTWO HEARTS,aSPARKLING HEART,abGROWING ,aHEART WITH ARROW,aBLUE HEART,abGREEN ,",
   "abYELLOW ,abPURPLE ,aHEART WITH RIBBON,aREVOLVING HEARTS,aHEART DECORATION,",
   "aDIAMOND SHAPE WITH A DOT INSIDE,aELECTRIC LIGHT BULB,aANGER SYMBOL,aBOMB,aSLEEPING SYMBOL,",
   "abCOLLISION ,abSPLASHING SWEAT ,aDROPLET,aDASH SYMBOL,aPILE OF POO,aFLEXED BICEPS,",
   "aDIZZY SYMBOL,aSPEECH BALLOON,abTHOUGHT ,aWHITE FLOWER,aHUNDRED POINTS SYMBOL,aMONEY BAG,",
   "aCURRENCY EXCHANGE,aHEAVY DOLLAR SIGN,aCREDIT CARD,aBANKNOTE WITH YEN SIGN,cbDOLLAR ,cbEURO ,",
   "cbPOUND ,aMONEY WITH WINGS,aCHART WITH UPWARDS TREND AND YEN SIGN,aSEAT,aPERSONAL COMPUTER,",
   "aBRIEFCASE,aMINIDISC,aFLOPPY DISK,aOPTICAL DISC,aDVD,aFILE FOLDER,acOPEN ,aPAGE WITH CURL,",
   "bFACING UP,aCALENDAR,abTEAR-OFF ,aCARD INDEX,aCHART WITH UPWARDS TREND,cbDOWNWARDS ,",
   "aBAR CHART,aCLIPBOARD,aPUSHPIN,abROUND ,aPAPERCLIP,aSTRAIGHT RULER,abTRIANGULAR ,",
   "aBOOKMARK TABS,aLEDGER,aNOTEBOOK,aNOTEBOOK WITH DECORATIVE COVER,aCLOSED BOOK,abOPEN ,",
   "abGREEN ,abBLUE ,abORANGE ,aBOOKS,aNAME BADGE,aSCROLL,aMEMO,aTELEPHONE RECEIVER,aPAGER,",
   "aFAX MACHINE,aSATELLITE ANTENNA,aPUBLIC ADDRESS LOUDSPEAKER,aCHEERING MEGAPHONE,aOUTBOX TRAY,",
   "abINBOX ,aPACKAGE,aE-MAIL SYMBOL,aINCOMING ENVELOPE,aENVELOPE WITH DOWNWARDS ARROW ABOVE,",
   "aCLOSED MAILBOX WITH LOWERED FLAG,dbRAISED ,aeOPEN ,dbLOWERED ,aPOSTBOX,aPOSTAL HORN,",
   "aNEWSPAPER,aMOBILE PHONE,bPHONE WITH RIGHTWARDS ARROW AT LEFT,aVIBRATION MODE,",
   "aMOBILE PHONE OFF,aNO MOBILE PHONES,aANTENNA WITH BARS,aCAMERA,aCAMERA WITH FLASH,",
   "aVIDEO CAMERA,aTELEVISION,aRADIO,aVIDEOCASSETTE,aFILM PROJECTOR,aPORTABLE STEREO,",
   "aPRAYER BEADS,aTWISTED RIGHTWARDS ARROWS,abCLOCKWISE RIGHTWARDS AND LEFTWARDS OPEN CIRCLE ,",
   "gARROWS WITH CIRCLED ONE OVERLAY,bDOWNWARDS AND UPWARDS OPEN CIRCLE ARROWS,agANTICLOCKWISE ,",
   "aLOW BRIGHTNESS SYMBOL,acHIGH ,aSPEAKER WITH CANCELLATION STROKE,aSPEAKER,",
   "aSPEAKER WITH ONE SOUND WAVE,cTHREE SOUND WAVES,aBATTERY,aELECTRIC PLUG,",
   "aLEFT-POINTING MAGNIFYING GLASS,adRIGHT-,aLOCK WITH INK PEN,aCLOSED LOCK WITH KEY,ab,aLOCK,",
   "abOPEN ,aBELL,aBELL WITH CANCELLATION STROKE,aBOOKMARK,aLINK SYMBOL,aRADIO BUTTON,",
   "aBACK WITH LEFTWARDS ARROW ABOVE,aeEND ,acON WITH EXCLAMATION MARK WITH LEFT RIGHT ,",
   "acSOON WITH RIGHTWARDS ,acTOP WITH UPWARDS ,aNO ONE UNDER EIGHTEEN SYMBOL,aKEYCAP TEN,",
   "aINPUT SYMBOL FOR LATIN CAPITAL LETTERS,ebSMALL ,dNUMBERS,dSYMBOLS,dLATIN LETTERS,aFIRE,",
   "aELECTRIC TORCH,aWRENCH,aHAMMER,aNUT AND BOLT,aHOCHO,aPISTOL,aMICROSCOPE,aTELESCOPE,",
   "aCRYSTAL BALL,aSIX POINTED STAR WITH MIDDLE DOT,aJAPANESE SYMBOL FOR BEGINNER,aTRIDENT EMBLEM,",
   "aBLACK SQUARE BUTTON,acWHITE ,aLARGE RED CIRCLE,bbBLUE ,bORANGE DIAMOND,bbBLUE ,",
   "abSMALL ORANGE ,bbBLUE ,aUP-POINTING RED TRIANGLE,adDOWN-,acUP-POINTING SMALL ,aeDOWN-,",
   "aLOWER RIGHT SHADOWED WHITE CIRCLE,aeUPPER ,aCIRCLED CROSS POMMEE,",
   "aCROSS POMMEE WITH HALF-CIRCLE BELOW,bPOMMEE,aNOTCHED LEFT SEMICIRCLE WITH THREE DOTS,",
   "beRIGHT ,aSYMBOL FOR MARKS CHAPTER,aWHITE LATIN CROSS,acHEAVY ,abCELTIC ,aOM SYMBOL,",
   "aDOVE OF PEACE,aKAABA,aMOSQUE,aSYNAGOGUE,aMENORAH WITH NINE BRANCHES,aBOWL OF HYGIEIA,",
   "aCLOCK FACE ONE OCLOCK,cbTWO ,cbTHREE ,cbFOUR ,cbFIVE ,cbSIX ,cbSEVEN ,cbEIGHT ,cbNINE ,",
   "cbTEN ,cbELEVEN ,cbTWELVE ,cONE-THIRTY,cbTWO-,cbTHREE-,cbFOUR-,cbFIVE-,cbSIX-,cbSEVEN-,",
   "cbEIGHT-,cbNINE-,cbTEN-,cbELEVEN-,cbTWELVE-,aRIGHT SPEAKER,bSPEAKER WITH ONE SOUND WAVE,",
   "dTHREE SOUND WAVES,aBULLHORN,aBULLHORN WITH SOUND WAVES,aRINGING BELL,aBOOK,aCANDLE,",
   "aMANTELPIECE CLOCK,aBLACK SKULL AND CROSSBONES,aNO PIRACY,aHOLE,",
   "aMAN IN BUSINESS SUIT LEVITATING,aSLEUTH OR SPY,aDARK SUNGLASSES,aSPIDER,aSPIDER WEB,",
   "aJOYSTICK,aMAN DANCING,aLEFT HAND TELEPHONE RECEIVER,aTELEPHONE RECEIVER WITH PAGE,",
   "aRIGHT HAND TELEPHONE RECEIVER,aWHITE TOUCHTONE TELEPHONE,acBLACK ,aTELEPHONE ON TOP OF MODEM,",
   "aCLAMSHELL MOBILE PHONE,aBACK OF ENVELOPE,abSTAMPED ,aENVELOPE WITH LIGHTNING,",
   "aFLYING ENVELOPE,abPEN OVER STAMPED ,aLINKED PAPERCLIPS,aBLACK PUSHPIN,aLOWER LEFT PENCIL,",
   "cBALLPOINT PEN,cbFOUNTAIN ,cPAINTBRUSH,cCRAYON,aLEFT WRITING HAND,aTURNED OK HAND SIGN,",
   "aRAISED HAND WITH FINGERS SPLAYED,afREVERSED ,bTHUMBS UP SIGN,cbDOWN ,bVICTORY HAND,",
   "bHAND WITH MIDDLE FINGER EXTENDED,aRAISED HAND WITH PART BETWEEN MIDDLE AND RING FINGERS,",
   "aWHITE DOWN POINTING LEFT HAND INDEX,abSIDEWAYS WHITE LEFT POINTING ,ccRIGHT ,bcBLACK LEFT ,",
   "ccRIGHT ,abBLACK LEFT POINTING BACKHAND ,bdRIGHT ,abSIDEWAYS WHITE UP POINTING ,ccDOWN ,",
   "bcBLACK UP ,ccDOWN ,abBLACK UP POINTING BACKHAND ,bdDOWN ,bHEART,aDESKTOP COMPUTER,",
   "aKEYBOARD AND MOUSE,aTHREE NETWORKED COMPUTERS,aPRINTER,aPOCKET CALCULATOR,",
   "aBLACK HARD SHELL FLOPPY DISK,aeWHITE ,adSOFT ,aTAPE CARTRIDGE,aWIRED KEYBOARD,",
   "aONE BUTTON MOUSE,acTWO ,acTHREE ,aTRACKBALL,aOLD PERSONAL COMPUTER,aHARD DISK,aSCREEN,",
   "aPRINTER ICON,abFAX ,abOPTICAL DISC ,aDOCUMENT WITH TEXT,cTEXT AND PICTURE,cb,acFRAME ,cTILES,",
   "cAN X,aBLACK FOLDER,ab,abOPEN ,aCARD INDEX DIVIDERS,bFILE BOX,aFILE CABINET,aEMPTY NOTE,",
   "bNOTE PAGE,cPAD,aNOTE,aNOTE PAGE,bPAD,aEMPTY DOCUMENT,bPAGE,bPAGES,aDOCUMENT,aPAGE,aPAGES,",
   "aWASTEBASKET,aSPIRAL NOTE PAD,bbCALENDAR ,aDESKTOP WINDOW,aMINIMIZE,aMAXIMIZE,aOVERLAP,",
   "aCLOCKWISE RIGHT AND LEFT SEMICIRCLE ARROWS,aCANCELLATION X,aINCREASE FONT SIZE SYMBOL,",
   "adDECREASE ,aCOMPRESSION,aOLD KEY,aROLLED-UP NEWSPAPER,aPAGE WITH CIRCLED TEXT,aSTOCK CHART,",
   "aDAGGER KNIFE,aLIPS,aSPEAKING HEAD IN SILHOUETTE,aTHREE RAYS ABOVE,cBELOW,cLEFT,cRIGHT,",
   "aLEFT SPEECH BUBBLE,acRIGHT ,aTWO SPEECH BUBBLES,acTHREE ,aLEFT THOUGHT BUBBLE,acRIGHT ,",
   "abLEFT ANGER ,acRIGHT ,abMOOD ,acLIGHTNING ,bMOOD,aBALLOT BOX WITH BALLOT,bSCRIPT X,",
   "bcBOX WITH ,bcBOLD ,bdBOX WITH ,aLIGHT CHECK MARK,aBALLOT BOX WITH BOLD CHECK,aWORLD MAP,",
   "aMOUNT FUJI,aTOKYO TOWER,aSTATUE OF LIBERTY,aSILHOUETTE OF JAPAN,aMOYAI,aGRINNING FACE,",
   "bFACE WITH SMILING EYES,aFACE WITH TEARS OF JOY,aSMILING FACE WITH OPEN MOUTH,",
   "eMOUTH AND SMILING EYES,gCOLD SWEAT,gTIGHTLY-CLOSED EYES,dHALO,dHORNS,aWINKING FACE,",
   "aSMILING FACE WITH SMILING EYES,aFACE SAVOURING DELICIOUS FOOD,aRELIEVED FACE,",
   "aSMILING FACE WITH HEART-SHAPED EYES,dSUNGLASSES,aSMIRKING FACE,abNEUTRAL ,abEXPRESSIONLESS ,",
   "abUNAMUSED ,aFACE WITH COLD SWEAT,aPENSIVE FACE,abCONFUSED ,abCONFOUNDED ,abKISSING ,",
   "aFACE THROWING A KISS,aKISSING FACE WITH SMILING EYES,dbCLOSED ,aFACE WITH STUCK-OUT TONGUE,",
   "eTONGUE AND WINKING EYE,gTIGHTLY-CLOSED EYES,aDISAPPOINTED FACE,abWORRIED ,abANGRY ,",
   "abPOUTING ,abCRYING ,abPERSEVERING ,aFACE WITH LOOK OF TRIUMPH,",
   "aDISAPPOINTED BUT RELIEVED FACE,aFROWNING FACE WITH OPEN MOUTH,aANGUISHED FACE,abFEARFUL ,",
   "abWEARY ,abSLEEPY ,abTIRED ,abGRIMACING ,abLOUDLY CRYING ,aFACE WITH OPEN MOUTH,aHUSHED FACE,",
   "aFACE WITH OPEN MOUTH AND COLD SWEAT,bSCREAMING IN FEAR,aASTONISHED FACE,abFLUSHED ,",
   "abSLEEPING ,abDIZZY ,aFACE WITHOUT MOUTH,bWITH MEDICAL MASK,",
   "aGRINNING CAT FACE WITH SMILING EYES,aCAT FACE WITH TEARS OF JOY,",
   "aSMILING CAT FACE WITH OPEN MOUTH,eHEART-SHAPED EYES,aCAT FACE WITH WRY SMILE,",
   "aKISSING CAT FACE WITH CLOSED EYES,aPOUTING CAT FACE,acCRYING ,acWEARY ,abSLIGHTLY FROWNING ,",
   "bbSMILING ,abUPSIDE-DOWN ,aFACE WITH ROLLING EYES,cNO GOOD GESTURE,cbOK ,",
   "aPERSON BOWING DEEPLY,aSEE-NO-EVIL MONKEY,adHEAR-,adSPEAK-,aHAPPY PERSON RAISING ONE HAND,",
   "aPERSON RAISING BOTH HANDS IN CELEBRATION,bFROWNING,bWITH POUTING FACE,cFOLDED HANDS,",
   "aNORTH WEST POINTING LEAF,adSOUTH ,acNORTH EAST ,adSOUTH ,acTURNED NORTH WEST ,bdSOUTH ,",
   "bcNORTH EAST ,bdSOUTH ,abNORTH WEST POINTING VINE ,aeSOUTH ,adNORTH EAST ,aeSOUTH ,",
   "adHEAVY NORTH WEST ,beSOUTH ,bdNORTH EAST ,beSOUTH ,aNORTH WEST POINTING BUD,adSOUTH ,",
   "acNORTH EAST ,adSOUTH ,acHEAVY NORTH WEST ,bdSOUTH ,bcNORTH EAST ,bdSOUTH ,",
   "aHOLLOW QUILT SQUARE ORNAMENT,dORNAMENT IN BLACK SQUARE,aSOLID QUILT SQUARE ORNAMENT,",
   "dORNAMENT IN BLACK SQUARE,aLEFTWARDS ROCKET,abUPWARDS ,abRIGHTWARDS ,abDOWNWARDS ,",
   "aSCRIPT LIGATURE ET ORNAMENT,aeHEAVY ,acLIGATURE OPEN ,aeHEAVY ,bbAMPERSAND ,acSWASH ,",
   "abSANS-SERIF HEAVY DOUBLE TURNED COMMA QUOTATION MARK ,ee,dfLOW ,abHEAVY INTERROBANG ,",
   "acSANS-SERIF ,aeHEAVY ,aVERY HEAVY SOLIDUS,cbREVERSE ,aCHECKER BOARD,acREVERSE ,aROCKET,",
   "aHELICOPTER,aSTEAM LOCOMOTIVE,aRAILWAY CAR,aHIGH-SPEED TRAIN,cTRAIN WITH BULLET NOSE,aTRAIN,",
   "aMETRO,aLIGHT RAIL,aSTATION,aTRAM,aTRAM CAR,aBUS,abONCOMING ,aTROLLEYBUS,aBUS STOP,aMINIBUS,",
   "aAMBULANCE,aFIRE ENGINE,aPOLICE CAR,acONCOMING ,aTAXI,abONCOMING ,aAUTOMOBILE,abONCOMING ,",
   "aRECREATIONAL VEHICLE,aDELIVERY TRUCK,aARTICULATED LORRY,aTRACTOR,aMONORAIL,aMOUNTAIN RAILWAY,",
   "abSUSPENSION ,aMOUNTAIN CABLEWAY,aAERIAL TRAMWAY,aSHIP,aROWBOAT,aSPEEDBOAT,",
   "aHORIZONTAL TRAFFIC LIGHT,acVERTICAL ,aCONSTRUCTION SIGN,aPOLICE CARS REVOLVING LIGHT,",
   "aTRIANGULAR FLAG ON POST,aDOOR,aNO ENTRY SIGN,aSMOKING SYMBOL,acNO ,",
   "abPUT LITTER IN ITS PLACE ,abDO NOT LITTER ,abPOTABLE WATER ,adNON-,aBICYCLE,aNO BICYCLES,",
   "aBICYCLIST,abMOUNTAIN ,aPEDESTRIAN,aNO PEDESTRIANS,aCHILDREN CROSSING,aMENS SYMBOL,abWOMENS ,",
   "aRESTROOM,aBABY SYMBOL,aTOILET,aWATER CLOSET,aSHOWER,aBATH,aBATHTUB,aPASSPORT CONTROL,",
   "aCUSTOMS,aBAGGAGE CLAIM,aLEFT LUGGAGE,aTRIANGLE WITH ROUNDED CORNERS,aPROHIBITED SIGN,",
   "aCIRCLED INFORMATION SOURCE,aBOYS SYMBOL,abGIRLS ,aCOUCH AND LAMP,aSLEEPING ACCOMMODATION,",
   "aSHOPPING BAGS,aBELLHOP BELL,aBED,aPLACE OF WORSHIP,aOCTAGONAL SIGN,aSHOPPING TROLLEY,aSTUPA,",
   "aPAGODA,aHINDU TEMPLE,aHUT,aELEVATOR,6aPLAYGROUND SLIDE,aWHEEL,aRING BUOY,aHAMMER AND WRENCH,",
   "aSHIELD,aOIL DRUM,aMOTORWAY,aRAILWAY TRACK,aMOTOR BOAT,aUP-POINTING MILITARY AIRPLANE,cb,",
   "cbSMALL ,ac,abNORTHEAST-POINTING ,aAIRPLANE DEPARTURE,bARRIVING,4aSATELLITE,",
   "aONCOMING FIRE ENGINE,aDIESEL LOCOMOTIVE,aPASSENGER SHIP,aSCOOTER,abMOTOR ,aCANOE,aSLED,",
   "aFLYING SAUCER,aSKATEBOARD,aAUTO RICKSHAW,aPICKUP TRUCK,aROLLER SKATE,",
   "4aALCHEMICAL SYMBOL FOR QUINTESSENCE,dAIR,dFIRE,dEARTH,dWATER,dAQUAFORTIS,dAQUA REGIA,",
   "eREGIA-2,eVITAE,eVITAE-2,dVINEGAR,dVINEGAR-2,e3,dSULFUR,dbPHILOSOPHERS ,dbBLACK ,",
   "dMERCURY SUBLIMATE,eSUBLIMATE-2,f3,dCINNABAR,dSALT,dNITRE,dVITRIOL,dVITRIOL-2,dROCK SALT,",
   "eSALT-2,dGOLD,dSILVER,dIRON ORE,eORE-2,dCROCUS OF IRON,dcREGULUS ,dCOPPER ORE,dcIRON-,",
   "dSUBLIMATE OF COPPER,dcCROCUS ,fCOPPER-2,dCOPPER ANTIMONIATE,dcSALT OF ,",
   "dSUBLIMATE OF SALT OF COPPER,dVERDIGRIS,dTIN ORE,dbLEAD ,dbANTIMONY ,dSUBLIMATE OF ANTIMONY,",
   "dcSALT ,ddSUBLIMATE OF ,dcVINEGAR ,dcREGULUS ,fANTIMONY-2,dREGULUS,dREGULUS-2,e3,e4,dALKALI,",
   "dALKALI-2,dMARCASITE,dSAL-AMMONIAC,dARSENIC,dREALGAR,dREALGAR-2,dAURIPIGMENT,dBISMUTH ORE,",
   "dTARTAR,dTARTAR-2,dQUICK LIME,dBORAX,dBORAX-2,e3,dALUM,dOIL,dSPIRIT,dTINCTURE,dGUM,dWAX,",
   "dPOWDER,dCALX,dTUTTY,dCAPUT MORTUUM,dSCEPTER OF JOVE,dCADUCEUS,dTRIDENT,dbSTARRED ,dLODESTONE,",
   "dSOAP,dURINE,dHORSE DUNG,dASHES,dbPOT ,dBRICK,dbPOWDERED ,dAMALGAM,dSTRATUM SUPER STRATUM,",
   "fSTRATUM-2,dSUBLIMATION,dPRECIPITATE,dDISTILL,dDISSOLVE,dDISSOLVE-2,dPURIFY,dPUTREFACTION,",
   "dCRUCIBLE,dCRUCIBLE-2,e3,e4,e5,dALEMBIC,dBATH OF MARY,fVAPOURS,dRETORT,dHOUR,dNIGHT,dbDAY-,",
   "dMONTH,dHALF DRAM,eOUNCE,DaBLACK LEFT-POINTING ISOSCELES RIGHT TRIANGLE,beUP-,beRIGHT-,",
   "beDOWN-,bSLIGHTLY SMALL CIRCLE,abMEDIUM BOLD WHITE ,ad,acHEAVY ,adVERY ,adEXTREMELY ,",
   "abWHITE CIRCLE CONTAINING BLACK SMALL ,aROUND TARGET,aBLACK TINY SQUARE,bbSLIGHTLY SMALL ,",
   "abLIGHT WHITE ,acMEDIUM ,acBOLD ,acHEAVY ,adVERY ,adEXTREMELY ,",
   "abWHITE SQUARE CONTAINING BLACK VERY SMALL ,ebMEDIUM ,aSQUARE TARGET,aBLACK TINY DIAMOND,",
   "bbVERY SMALL ,bcMEDIUM ,acWHITE DIAMOND CONTAINING BLACK VERY ,ebMEDIUM ,aDIAMOND TARGET,",
   "aBLACK TINY LOZENGE,bbVERY SMALL ,bcMEDIUM ,acWHITE LOZENGE CONTAINING BLACK ,",
   "aTHIN GREEK CROSS,acLIGHT ,acMEDIUM ,acBOLD ,adVERY ,bcHEAVY ,adEXTREMELY ,aTHIN SALTIRE,",
   "abLIGHT ,abMEDIUM ,abBOLD ,abHEAVY ,acVERY ,acEXTREMELY ,aLIGHT FIVE SPOKED ASTERISK,",
   "adMEDIUM ,adBOLD ,adHEAVY ,aeVERY ,aeEXTREMELY ,acLIGHT SIX ,adMEDIUM ,adBOLD ,adHEAVY ,",
   "aeVERY ,aeEXTREMELY ,acLIGHT EIGHT ,adMEDIUM ,adBOLD ,adHEAVY ,aeVERY ,",
   "aLIGHT THREE POINTED BLACK STAR,aeMEDIUM ,ae,abMEDIUM THREE POINTED PINWHEEL ,",
   "abLIGHT FOUR POINTED BLACK ,aeMEDIUM ,ae,abMEDIUM FOUR POINTED PINWHEEL ,aeREVERSE LIGHT ,",
   "abLIGHT FIVE POINTED BLACK ,aeHEAVY ,adMEDIUM SIX ,aeHEAVY ,abSIX POINTED PINWHEEL ,",
   "abMEDIUM EIGHT POINTED BLACK ,aeHEAVY ,afVERY ,abHEAVY EIGHT POINTED PINWHEEL ,",
   "abLIGHT TWELVE POINTED BLACK ,aeHEAVY ,dbPINWHEEL ,aCIRCLED TRIANGLE,acNEGATIVE ,",
   "aCIRCLED SQUARE,acNEGATIVE ,8aLARGE ORANGE CIRCLE,bbYELLOW ,bbGREEN ,bbPURPLE ,bbBROWN ,",
   "bRED SQUARE,bbBLUE ,bbORANGE ,bbYELLOW ,bbGREEN ,bbPURPLE ,bbBROWN ,5aHEAVY EQUALS SIGN,",
   "10aLEFTWARDS ARROW WITH SMALL TRIANGLE ARROWHEAD,afUPWARDS ,afRIGHTWARDS ,afDOWNWARDS ,",
   "acLEFTWARDS ARROW WITH MEDIUM ,afUPWARDS ,afRIGHTWARDS ,afDOWNWARDS ,",
   "acLEFTWARDS ARROW WITH LARGE ,afUPWARDS ,afRIGHTWARDS ,afDOWNWARDS ,",
   "5abLEFTWARDS ARROW WITH SMALL EQUILATERAL ,afUPWARDS ,afRIGHTWARDS ,afDOWNWARDS ,",
   "acLEFTWARDS ARROW WITH ,aeUPWARDS ,aeRIGHTWARDS ,aeDOWNWARDS ,aeHEAVY LEFTWARDS ,beUPWARDS ,",
   "beRIGHTWARDS ,beDOWNWARDS ,bcLEFTWARDS ARROW WITH LARGE ,bfUPWARDS ,bfRIGHTWARDS ,",
   "bfDOWNWARDS ,aLEFTWARDS TRIANGLE-HEADED ARROW WITH NARROW SHAFT,agUPWARDS ,agRIGHTWARDS ,",
   "agDOWNWARDS ,abLEFTWARDS TRIANGLE-HEADED ARROW WITH MEDIUM ,agUPWARDS ,agRIGHTWARDS ,",
   "agDOWNWARDS ,abLEFTWARDS TRIANGLE-HEADED ARROW WITH BOLD ,agUPWARDS ,agRIGHTWARDS ,",
   "agDOWNWARDS ,abLEFTWARDS TRIANGLE-HEADED ARROW WITH HEAVY ,agUPWARDS ,agRIGHTWARDS ,",
   "agDOWNWARDS ,acLEFTWARDS TRIANGLE-HEADED ARROW WITH VERY ,ahUPWARDS ,ahRIGHTWARDS ,",
   "ahDOWNWARDS ,aLEFTWARDS FINGER-POST ARROW,adUPWARDS ,adRIGHTWARDS ,adDOWNWARDS ,",
   "abLEFTWARDS SQUARED ,acUPWARDS ,acRIGHTWARDS ,acDOWNWARDS ,abLEFTWARDS COMPRESSED ,acUPWARDS ,",
   "acRIGHTWARDS ,acDOWNWARDS ,acLEFTWARDS HEAVY ,adUPWARDS ,adRIGHTWARDS ,adDOWNWARDS ,",
   "abLEFTWARDS HEAVY ,acUPWARDS ,acRIGHTWARDS ,acDOWNWARDS ,9abLEFTWARDS SANS-SERIF ,adUPWARDS ,",
   "adRIGHTWARDS ,adDOWNWARDS ,adNORTH WEST ,bdEAST ,aeSOUTH ,bdWEST ,adLEFT RIGHT ,adUP DOWN ,",
   "7abWIDE-HEADED LEFTWARDS LIGHT BARB ,cdUPWARDS ,cdRIGHTWARDS ,cdDOWNWARDS ,cdNORTH WEST ,",
   "ddEAST ,ceSOUTH ,ddWEST ,ccLEFTWARDS ,ccUPWARDS ,ccRIGHTWARDS ,ccDOWNWARDS ,ccNORTH WEST ,",
   "dcEAST ,cdSOUTH ,dcWEST ,ccLEFTWARDS MEDIUM ,cdUPWARDS ,cdRIGHTWARDS ,cdDOWNWARDS ,",
   "cdNORTH WEST ,ddEAST ,ceSOUTH ,ddWEST ,ccLEFTWARDS HEAVY ,cdUPWARDS ,cdRIGHTWARDS ,",
   "cdDOWNWARDS ,cdNORTH WEST ,ddEAST ,ceSOUTH ,ddWEST ,cdLEFTWARDS VERY ,ceUPWARDS ,",
   "ceRIGHTWARDS ,ceDOWNWARDS ,ceNORTH WEST ,deEAST ,cfSOUTH ,deWEST ,",
   "9aLEFTWARDS TRIANGLE ARROWHEAD,acUPWARDS ,acRIGHTWARDS ,acDOWNWARDS ,",
   "acLEFTWARDS WHITE ARROW WITHIN ,afUPWARDS ,afRIGHTWARDS ,afDOWNWARDS ,",
   "aLEFTWARDS ARROW WITH NOTCHED TAIL,aeUPWARDS ,aeRIGHTWARDS ,aeDOWNWARDS ,",
   "aHEAVY ARROW SHAFT WIDTH ONE,eTWO THIRDS,eONE HALF,fTHIRD,",
   "aLEFTWARDS BOTTOM-SHADED WHITE ARROW,adRIGHTWARDS BOTTOM ,adLEFTWARDS TOP ,aeRIGHTWARDS ,",
   "adLEFTWARDS LEFT-,adRIGHTWARDS RIGHT-,aeLEFTWARDS ,adRIGHTWARDS LEFT-,",
   "acLEFTWARDS BACK-TILTED SHADOWED ,afRIGHTWARDS ,aeLEFTWARDS FRONT-,afRIGHTWARDS ,",
   "aWHITE ARROW SHAFT WIDTH ONE,eTWO THIRDS,3aARROW POINTING UPWARDS THEN NORTH WEST,",
   "cbRIGHTWARDS THEN CURVING SOUTH ,4FaCIRCLED CROSS FORMEE WITH FOUR DOTS,ebTWO ,cFORMEE,",
   "aLEFT HALF CIRCLE WITH FOUR DOTS,ebTHREE ,ebTWO ,eDOT,cCIRCLE,aDOWNWARD FACING HOOK,",
   "cbNOTCHED ,cHOOK WITH DOT,cdNOTCHED ,aPINCHED FINGERS,aWHITE HEART,abBROWN ,aPINCHING HAND,",
   "aZIPPER-MOUTH FACE,acMONEY-,aFACE WITH THERMOMETER,aNERD FACE,abTHINKING ,",
   "aFACE WITH HEAD-BANDAGE,aROBOT FACE,abHUGGING ,aSIGN OF THE HORNS,aCALL ME HAND,",
   "abRAISED BACK OF ,aLEFT-FACING FIST,acRIGHT-,aHANDSHAKE,",
   "aHAND WITH INDEX AND MIDDLE FINGERS CROSSED,aI LOVE YOU HAND SIGN,aFACE WITH COWBOY HAT,",
   "aCLOWN FACE,abNAUSEATED ,aROLLING ON THE FLOOR LAUGHING,aDROOLING FACE,abLYING ,aFACE PALM,",
   "aSNEEZING FACE,aFACE WITH ONE EYEBROW RAISED,aGRINNING FACE WITH STAR EYES,",
   "dONE LARGE AND ONE SMALL EYE,aFACE WITH FINGER COVERING CLOSED LIPS,",
   "aSERIOUS FACE WITH SYMBOLS COVERING MOUTH,acSMILING FACE WITH SMILING EYES AND HAND ,",
   "aFACE WITH OPEN MOUTH VOMITING,aSHOCKED FACE WITH EXPLODING HEAD,aPREGNANT WOMAN,",
   "aBREAST-FEEDING,aPALMS UP TOGETHER,aSELFIE,aPRINCE,aMAN IN TUXEDO,aMOTHER CHRISTMAS,aSHRUG,",
   "aPERSON DOING CARTWHEEL,aJUGGLING,aFENCER,aMODERN PENTATHLON,aWRESTLERS,aWATER POLO,aHANDBALL,",
   "aDIVING MASK,aWILTED FLOWER,aDRUM WITH DRUMSTICKS,aCLINKING GLASSES,aTUMBLER GLASS,aSPOON,",
   "aGOAL NET,aRIFLE,aFIRST PLACE MEDAL,acSECOND ,acTHIRD ,aBOXING GLOVE,aMARTIAL ARTS UNIFORM,",
   "aCURLING STONE,aLACROSSE STICK AND BALL,aSOFTBALL,aFLYING DISC,aCROISSANT,aAVOCADO,aCUCUMBER,",
   "aBACON,aPOTATO,aCARROT,aBAGUETTE BREAD,aGREEN SALAD,aSHALLOW PAN OF FOOD,aSTUFFED FLATBREAD,",
   "aEGG,aGLASS OF MILK,aPEANUTS,aKIWIFRUIT,aPANCAKES,aDUMPLING,aFORTUNE COOKIE,aTAKEOUT BOX,",
   "aCHOPSTICKS,aBOWL WITH SPOON,aCUP WITH STRAW,aCOCONUT,aBROCCOLI,aPIE,aPRETZEL,aCUT OF MEAT,",
   "aSANDWICH,aCANNED FOOD,aLEAFY GREEN,aMANGO,aMOON CAKE,aBAGEL,",
   "aSMILING FACE WITH SMILING EYES AND THREE HEARTS,aYAWNING FACE,aSMILING FACE WITH TEAR,",
   "aFACE WITH PARTY HORN AND PARTY HAT,cUNEVEN EYES AND WAVY MOUTH,aOVERHEATED FACE,abFREEZING ,",
   "aNINJA,aDISGUISED FACE,aFACE HOLDING BACK TEARS,bWITH PLEADING EYES,aSARI,aLAB COAT,aGOGGLES,",
   "aHIKING BOOT,aFLAT SHOE,aCRAB,aLION FACE,aSCORPION,aTURKEY,aUNICORN FACE,aEAGLE,aDUCK,aBAT,",
   "aSHARK,aOWL,aFOX FACE,aBUTTERFLY,aDEER,aGORILLA,aLIZARD,aRHINOCEROS,aSHRIMP,aSQUID,",
   "aGIRAFFE FACE,abZEBRA ,aHEDGEHOG,aSAUROPOD,aT-REX,aCRICKET,aKANGAROO,aLLAMA,aPEACOCK,",
   "aHIPPOPOTAMUS,aPARROT,aRACCOON,aLOBSTER,aMOSQUITO,aMICROBE,aBADGER,aSWAN,aMAMMOTH,aDODO,",
   "aSLOTH,aOTTER,aORANGUTAN,aSKUNK,aFLAMINGO,aOYSTER,aBEAVER,aBISON,aSEAL,aGUIDE DOG,",
   "aPROBING CANE,aEMOJI COMPONENT RED HAIR,cbCURLY ,cBALD,cWHITE HAIR,aBONE,aLEG,aFOOT,aTOOTH,",
   "aSUPERHERO,aSUPERVILLAIN,aSAFETY VEST,aEAR WITH HEARING AID,aMOTORIZED WHEELCHAIR,abMANUAL ,",
   "aMECHANICAL ARM,bLEG,aCHEESE WEDGE,aCUPCAKE,aSALT SHAKER,aBEVERAGE BOX,aGARLIC,aONION,",
   "aFALAFEL,aWAFFLE,aBUTTER,aMATE DRINK,aICE CUBE,aBUBBLE TEA,aTROLL,aSTANDING PERSON,",
   "abKNEELING ,abDEAF ,aFACE WITH MONOCLE,aADULT,aCHILD,aOLDER ADULT,aBEARDED PERSON,",
   "aPERSON WITH HEADSCARF,bIN STEAMY ROOM,bCLIMBING,bIN LOTUS POSITION,aMAGE,aFAIRY,aVAMPIRE,",
   "aMERPERSON,aELF,aGENIE,aZOMBIE,aBRAIN,aORANGE HEART,aBILLED CAP,aSCARF,aGLOVES,aCOAT,aSOCKS,",
   "aRED GIFT ENVELOPE,aFIRECRACKER,aJIGSAW PUZZLE PIECE,aTEST TUBE,aPETRI DISH,aDNA DOUBLE HELIX,",
   "aCOMPASS,aABACUS,aFIRE EXTINGUISHER,aTOOLBOX,aBRICK,aMAGNET,aLUGGAGE,aLOTION BOTTLE,",
   "aSPOOL OF THREAD,aBALL OF YARN,aSAFETY PIN,aTEDDY BEAR,aBROOM,aBASKET,aROLL OF PAPER,",
   "aBAR OF SOAP,aSPONGE,aRECEIPT,aNAZAR AMULET,aNEUTRAL CHESS KING,cQUEEN,cROOK,cBISHOP,cKNIGHT,",
   "cPAWN,aWHITE CHESS KNIGHT ROTATED FORTY-FIVE DEGREES,agBLACK ,agNEUTRAL ,",
   "abWHITE CHESS KING ROTATED NINETY ,cdQUEEN ,cdROOK ,cdBISHOP ,cdKNIGHT ,cdPAWN ,",
   "adBLACK CHESS KING ,cdQUEEN ,cdROOK ,cdBISHOP ,cdKNIGHT ,cdPAWN ,adNEUTRAL CHESS KING ,",
   "cdQUEEN ,cdROOK ,cdBISHOP ,cdKNIGHT ,cdPAWN ,",
   "abWHITE CHESS KNIGHT ROTATED ONE HUNDRED THIRTY-FIVE ,aiBLACK ,aiNEUTRAL ,",
   "aWHITE CHESS TURNED KING,dQUEEN,dROOK,dBISHOP,dKNIGHT,dPAWN,aBLACK CHESS TURNED KING,dQUEEN,",
   "dROOK,dBISHOP,dKNIGHT,dPAWN,aNEUTRAL CHESS TURNED KING,dQUEEN,dROOK,dBISHOP,dKNIGHT,dPAWN,",
   "aWHITE CHESS KNIGHT ROTATED TWO HUNDRED TWENTY-FIVE DEGREES,aiBLACK ,aiNEUTRAL ,",
   "abWHITE CHESS KING ROTATED TWO HUNDRED SEVENTY ,cfQUEEN ,cfROOK ,cfBISHOP ,cfKNIGHT ,cfPAWN ,",
   "afBLACK CHESS KING ,cfQUEEN ,cfROOK ,cfBISHOP ,cfKNIGHT ,cfPAWN ,afNEUTRAL CHESS KING ,",
   "cfQUEEN ,cfROOK ,cfBISHOP ,cfKNIGHT ,cfPAWN ,",
   "abWHITE CHESS KNIGHT ROTATED THREE HUNDRED FIFTEEN ,ahBLACK ,ahNEUTRAL ,",
   "aWHITE CHESS EQUIHOPPER,acBLACK ,acNEUTRAL ,aWHITE CHESS EQUIHOPPER ROTATED NINETY DEGREES,",
   "afBLACK ,afNEUTRAL ,aWHITE CHESS KNIGHT-QUEEN,dROOK,dBISHOP,aBLACK CHESS KNIGHT-QUEEN,dROOK,",
   "dBISHOP,DaXIANGQI RED GENERAL,cMANDARIN,cELEPHANT,cHORSE,cCHARIOT,cCANNON,cSOLDIER,",
   "bBLACK GENERAL,cMANDARIN,cELEPHANT,cHORSE,cCHARIOT,cCANNON,cSOLDIER,3aBALLET SHOES,",
   "aONE-PIECE SWIMSUIT,aBRIEFS,aSHORTS,aTHONG SANDAL,4aDROP OF BLOOD,aADHESIVE BANDAGE,",
   "aSTETHOSCOPE,aX-RAY,aCRUTCH,4aYO-YO,aKITE,aPARACHUTE,aBOOMERANG,aMAGIC WAND,aPINATA,",
   "aNESTING DOLLS,AaRINGED PLANET,aCHAIR,aRAZOR,aAXE,aDIYA LAMP,aBANJO,aMILITARY HELMET,",
   "aACCORDION,aLONG DRUM,aCOIN,aCARPENTRY SAW,aSCREWDRIVER,aLADDER,aHOOK,aMIRROR,aWINDOW,",
   "aPLUNGER,aSEWING NEEDLE,aKNOT,aBUCKET,aMOUSE TRAP,aTOOTHBRUSH,aHEADSTONE,aPLACARD,aROCK,",
   "aMIRROR BALL,aIDENTIFICATION CARD,aLOW BATTERY,aHAMSA,4aFLY,aWORM,aBEETLE,aCOCKROACH,",
   "aPOTTED PLANT,aWOOD,aFEATHER,aLOTUS,aCORAL,aEMPTY NEST,aNEST WITH EGGS,6aANATOMICAL HEART,",
   "aLUNGS,aPEOPLE HUGGING,aPREGNANT MAN,bPERSON,aPERSON WITH CROWN,BaBLUEBERRIES,aBELL PEPPER,",
   "aOLIVE,aFLATBREAD,aTAMALE,aFONDUE,aTEAPOT,aPOURING LIQUID,aBEANS,aJAR,7aMELTING FACE,",
   "abSALUTING ,aFACE WITH OPEN EYES AND HAND OVER MOUTH,cPEEKING EYE,cDIAGONAL MOUTH,",
   "aDOTTED LINE FACE,aBITING LIP,aBUBBLES,9aHAND WITH INDEX FINGER AND THUMB CROSSED,",
   "aRIGHTWARDS HAND,abLEFTWARDS ,abPALM DOWN ,bbUP ,aINDEX POINTING AT THE VIEWER,aHEART HANDS,",
   "AaBLOCK SEXTANT-1,c2,c12,c3,c13,c23,c123,c4,c14,c24,c124,c34,c134,c234,c1234,c5,c15,c25,c125,",
   "c35,c235,c1235,c45,c145,c245,c1245,c345,c1345,c2345,c12345,c6,c16,c26,c126,c36,c136,c236,",
   "c1236,c46,c146,c1246,c346,c1346,c2346,c12346,c56,c156,c256,c1256,c356,c1356,c2356,c12356,c456,",
   "c1456,c2456,c12456,c3456,c13456,c23456,",
   "aLOWER LEFT BLOCK DIAGONAL LOWER MIDDLE LEFT TO LOWER CENTRE,jRIGHT,",
   "eUPPER MIDDLE LEFT TO LOWER CENTRE,jRIGHT,fLEFT TO LOWER CENTRE,",
   "bbRIGHT BLOCK DIAGONAL UPPER MIDDLE LEFT TO UPPER ,jRIGHT,eLOWER MIDDLE LEFT TO UPPER CENTRE,",
   "jRIGHT,fLEFT TO UPPER CENTRE,fMIDDLE LEFT TO UPPER MIDDLE RIGHT,fcCENTRE TO LOWER ,feLEFT ,",
   "fcCENTRE TO UPPER ,feLEFT ,fbCENTRE TO UPPER ,",
   "bbLEFT BLOCK DIAGONAL UPPER CENTRE TO UPPER MIDDLE ,feLEFT ,fcCENTRE TO LOWER ,feLEFT ,",
   "fbCENTRE TO LOWER ,fbMIDDLE LEFT TO LOWER MIDDLE ,",
   "aUPPER RIGHT BLOCK DIAGONAL LOWER MIDDLE LEFT TO LOWER CENTRE,jRIGHT,",
   "eUPPER MIDDLE LEFT TO LOWER CENTRE,jRIGHT,fLEFT TO LOWER CENTRE,",
   "bbLEFT BLOCK DIAGONAL UPPER MIDDLE LEFT TO UPPER ,jRIGHT,eLOWER MIDDLE LEFT TO UPPER CENTRE,",
   "jRIGHT,fLEFT TO UPPER CENTRE,fMIDDLE LEFT TO UPPER MIDDLE RIGHT,fcCENTRE TO LOWER ,feLEFT ,",
   "fcCENTRE TO UPPER ,feLEFT ,fbCENTRE TO UPPER ,",
   "bbRIGHT BLOCK DIAGONAL UPPER CENTRE TO UPPER MIDDLE ,feLEFT ,fcCENTRE TO LOWER ,feLEFT ,",
   "fbCENTRE TO LOWER ,fbMIDDLE LEFT TO LOWER MIDDLE ,",
   "bAND RIGHT AND LOWER TRIANGULAR THREE QUARTERS BLOCK,aeLEFT AND LOWER AND RIGHT ,",
   "aeUPPER AND LEFT AND LOWER ,aeLEFT AND UPPER AND RIGHT ,bbTRIANGULAR ONE QUARTER ,aeUPPER ,",
   "aeRIGHT ,aeLOWER ,aVERTICAL ONE EIGHTH BLOCK-2,e3,e4,e5,e6,e7,aHORIZONTAL ONE EIGHTH BLOCK-2,",
   "e3,e4,e5,e6,e7,aLEFT AND LOWER ONE EIGHTH BLOCK,cdUPPER ,afRIGHT ,cdLOWER ,afUPPER ,",
   "aHORIZONTAL ONE EIGHTH BLOCK-1358,aUPPER ONE QUARTER BLOCK,bbTHREE EIGHTHS ,bcFIVE ,",
   "bbTHREE QUARTERS ,bbSEVEN EIGHTHS ,abRIGHT ONE QUARTER ,bbTHREE EIGHTHS ,bcFIVE ,",
   "bbTHREE QUARTERS ,bbSEVEN EIGHTHS ,aLEFT HALF MEDIUM SHADE,adRIGHT ,adUPPER ,adLOWER ,",
   "acINVERSE ,adUPPER HALF BLOCK AND LOWER HALF ,cINVERSE MEDIUM SHADE AND LOWER HALF BLOCK,",
   "2acLEFT HALF INVERSE MEDIUM SHADE AND RIGHT ,aCHECKER BOARD FILL,adINVERSE ,",
   "abHEAVY HORIZONTAL ,abUPPER LEFT TO LOWER RIGHT ,bbRIGHT TO LOWER LEFT ,",
   "bAND LOWER TRIANGULAR HALF BLOCK,adLEFT AND RIGHT ,aUPPER LEFT TRIANGULAR MEDIUM SHADE,",
   "bdRIGHT ,aeLOWER ,bdLEFT ,aBOX DRAWINGS LIGHT DIAGONAL UPPER CENTRE TO MIDDLE LEFT,iRIGHT,",
   "eMIDDLE LEFT TO LOWER CENTRE,fdRIGHT ,edUPPER CENTRE TO MIDDLE LEFT ,idRIGHT ,",
   "eMIDDLE LEFT TO LOWER CENTRE TO MIDDLE RIGHT,heUPPER ,",
   "eUPPER CENTRE TO MIDDLE LEFT AND MIDDLE RIGHT TO LOWER CENTRE,idRIGHT AND MIDDLE LEFT ,",
   "jTO LOWER CENTRE TO MIDDLE LEFT,iLEFT TO LOWER CENTRE TO MIDDLE RIGHT,",
   "eMIDDLE LEFT TO UPPER CENTRE TO MIDDLE RIGHT TO LOWER CENTRE,",
   "fdRIGHT TO UPPER CENTRE TO MIDDLE LEFT ,eDIAMOND,dHORIZONTAL WITH VERTICAL STROKE,",
   "aARROWHEAD-SHAPED POINTER,aINVERSE CHECK MARK,aLEFT HALF RUNNING MAN,adRIGHT ,",
   "aINVERSE DOWNWARDS ARROW WITH TIP LEFTWARDS,",
   "aLEFTWARDS ARROW AND UPPER AND LOWER ONE EIGHTH BLOCK,aiRIGHTWARDS ,",
   "adDOWNWARDS ARROW AND RIGHT ,agUPWARDS ,aLEFT HALF FOLDER,acRIGHT ,aVOIDED GREEK CROSS,",
   "aRIGHT OPEN SQUARED DOT,aNEGATIVE DIAGONAL CROSS,cMIDDLE RIGHT TO LOWER CENTRE,cDIAMOND,",
   "aWHITE HEAVY SALTIRE WITH ROUNDED CORNERS,aLEFT THIRD WHITE RIGHT POINTING INDEX,afMIDDLE ,",
   "afRIGHT ,aNEGATIVE SQUARED QUESTION MARK,aSTICK FIGURE,bFIGURE WITH ARMS RAISED,cLEANING LEFT,",
   "dRIGHT,cWITH DRESS,aWHITE UP-POINTING CHEVRON,26aSEGMENTED DIGIT ZERO,cONE,cTWO,cTHREE,cFOUR,",
   "cFIVE,cSIX,cSEVEN,cEIGHT,cNINE,FC07aCJK COMPATIBILITY IDEOGRAPH-2F800,d2F801,d2F802,d2F803,",
   "d2F804,d2F805,d2F806,d2F807,d2F808,d2F809,d2F80A,d2F80B,d2F80C,d2F80D,d2F80E,d2F80F,d2F810,",
   "d2F811,d2F812,d2F813,d2F814,d2F815,d2F816,d2F817,d2F818,d2F819,d2F81A,d2F81B,d2F81C,d2F81D,",
   "d2F81E,d2F81F,d2F820,d2F821,d2F822,d2F823,d2F824,d2F825,d2F826,d2F827,d2F828,d2F829,d2F82A,",
   "d2F82B,d2F82C,d2F82D,d2F82E,d2F82F,d2F830,d2F831,d2F832,d2F833,d2F834,d2F835,d2F836,d2F837,",
   "d2F838,d2F839,d2F83A,d2F83B,d2F83C,d2F83D,d2F83E,d2F83F,d2F840,d2F841,d2F842,d2F843,d2F844,",
   "d2F845,d2F846,d2F847,d2F848,d2F849,d2F84A,d2F84B,d2F84C,d2F84D,d2F84E,d2F84F,d2F850,d2F851,",
   "d2F852,d2F853,d2F854,d2F855,d2F856,d2F857,d2F858,d2F859,d2F85A,d2F85B,d2F85C,d2F85D,d2F85E,",
   "d2F85F,d2F860,d2F861,d2F862,d2F863,d2F864,d2F865,d2F866,d2F867,d2F868,d2F869,d2F86A,d2F86B,",
   "d2F86C,d2F86D,d2F86E,d2F86F,d2F870,d2F871,d2F872,d2F873,d2F874,d2F875,d2F876,d2F877,d2F878,",
   "d2F879,d2F87A,d2F87B,d2F87C,d2F87D,d2F87E,d2F87F,d2F880,d2F881,d2F882,d2F883,d2F884,d2F885,",
   "d2F886,d2F887,d2F888,d2F889,d2F88A,d2F88B,d2F88C,d2F88D,d2F88E,d2F88F,d2F890,d2F891,d2F892,",
   "d2F893,d2F894,d2F895,d2F896,d2F897,d2F898,d2F899,d2F89A,d2F89B,d2F89C,d2F89D,d2F89E,d2F89F,",
   "d2F8A0,d2F8A1,d2F8A2,d2F8A3,d2F8A4,d2F8A5,d2F8A6,d2F8A7,d2F8A8,d2F8A9,d2F8AA,d2F8AB,d2F8AC,",
   "d2F8AD,d2F8AE,d2F8AF,d2F8B0,d2F8B1,d2F8B2,d2F8B3,d2F8B4,d2F8B5,d2F8B6,d2F8B7,d2F8B8,d2F8B9,",
   "d2F8BA,d2F8BB,d2F8BC,d2F8BD,d2F8BE,d2F8BF,d2F8C0,d2F8C1,d2F8C2,d2F8C3,d2F8C4,d2F8C5,d2F8C6,",
   "d2F8C7,d2F8C8,d2F8C9,d2F8CA,d2F8CB,d2F8CC,d2F8CD,d2F8CE,d2F8CF,d2F8D0,d2F8D1,d2F8D2,d2F8D3,",
   "d2F8D4,d2F8D5,d2F8D6,d2F8D7,d2F8D8,d2F8D9,d2F8DA,d2F8DB,d2F8DC,d2F8DD,d2F8DE,d2F8DF,d2F8E0,",
   "d2F8E1,d2F8E2,d2F8E3,d2F8E4,d2F8E5,d2F8E6,d2F8E7,d2F8E8,d2F8E9,d2F8EA,d2F8EB,d2F8EC,d2F8ED,",
   "d2F8EE,d2F8EF,d2F8F0,d2F8F1,d2F8F2,d2F8F3,d2F8F4,d2F8F5,d2F8F6,d2F8F7,d2F8F8,d2F8F9,d2F8FA,",
   "d2F8FB,d2F8FC,d2F8FD,d2F8FE,d2F8FF,d2F900,d2F901,d2F902,d2F903,d2F904,d2F905,d2F906,d2F907,",
   "d2F908,d2F909,d2F90A,d2F90B,d2F90C,d2F90D,d2F90E,d2F90F,d2F910,d2F911,d2F912,d2F913,d2F914,",
   "d2F915,d2F916,d2F917,d2F918,d2F919,d2F91A,d2F91B,d2F91C,d2F91D,d2F91E,d2F91F,d2F920,d2F921,",
   "d2F922,d2F923,d2F924,d2F925,d2F926,d2F927,d2F928,d2F929,d2F92A,d2F92B,d2F92C,d2F92D,d2F92E,",
   "d2F92F,d2F930,d2F931,d2F932,d2F933,d2F934,d2F935,d2F936,d2F937,d2F938,d2F939,d2F93A,d2F93B,",
   "d2F93C,d2F93D,d2F93E,d2F93F,d2F940,d2F941,d2F942,d2F943,d2F944,d2F945,d2F946,d2F947,d2F948,",
   "d2F949,d2F94A,d2F94B,d2F94C,d2F94D,d2F94E,d2F94F,d2F950,d2F951,d2F952,d2F953,d2F954,d2F955,",
   "d2F956,d2F957,d2F958,d2F959,d2F95A,d2F95B,d2F95C,d2F95D,d2F95E,d2F95F,d2F960,d2F961,d2F962,",
   "d2F963,d2F964,d2F965,d2F966,d2F967,d2F968,d2F969,d2F96A,d2F96B,d2F96C,d2F96D,d2F96E,d2F96F,",
   "d2F970,d2F971,d2F972,d2F973,d2F974,d2F975,d2F976,d2F977,d2F978,d2F979,d2F97A,d2F97B,d2F97C,",
   "d2F97D,d2F97E,d2F97F,d2F980,d2F981,d2F982,d2F983,d2F984,d2F985,d2F986,d2F987,d2F988,d2F989,",
   "d2F98A,d2F98B,d2F98C,d2F98D,d2F98E,d2F98F,d2F990,d2F991,d2F992,d2F993,d2F994,d2F995,d2F996,",
   "d2F997,d2F998,d2F999,d2F99A,d2F99B,d2F99C,d2F99D,d2F99E,d2F99F,d2F9A0,d2F9A1,d2F9A2,d2F9A3,",
   "d2F9A4,d2F9A5,d2F9A6,d2F9A7,d2F9A8,d2F9A9,d2F9AA,d2F9AB,d2F9AC,d2F9AD,d2F9AE,d2F9AF,d2F9B0,",
   "d2F9B1,d2F9B2,d2F9B3,d2F9B4,d2F9B5,d2F9B6,d2F9B7,d2F9B8,d2F9B9,d2F9BA,d2F9BB,d2F9BC,d2F9BD,",
   "d2F9BE,d2F9BF,d2F9C0,d2F9C1,d2F9C2,d2F9C3,d2F9C4,d2F9C5,d2F9C6,d2F9C7,d2F9C8,d2F9C9,d2F9CA,",
   "d2F9CB,d2F9CC,d2F9CD,d2F9CE,d2F9CF,d2F9D0,d2F9D1,d2F9D2,d2F9D3,d2F9D4,d2F9D5,d2F9D6,d2F9D7,",
   "d2F9D8,d2F9D9,d2F9DA,d2F9DB,d2F9DC,d2F9DD,d2F9DE,d2F9DF,d2F9E0,d2F9E1,d2F9E2,d2F9E3,d2F9E4,",
   "d2F9E5,d2F9E6,d2F9E7,d2F9E8,d2F9E9,d2F9EA,d2F9EB,d2F9EC,d2F9ED,d2F9EE,d2F9EF,d2F9F0,d2F9F1,",
   "d2F9F2,d2F9F3,d2F9F4,d2F9F5,d2F9F6,d2F9F7,d2F9F8,d2F9F9,d2F9FA,d2F9FB,d2F9FC,d2F9FD,d2F9FE,",
   "d2F9FF,d2FA00,d2FA01,d2FA02,d2FA03,d2FA04,d2FA05,d2FA06,d2FA07,d2FA08,d2FA09,d2FA0A,d2FA0B,",
   "d2FA0C,d2FA0D,d2FA0E,d2FA0F,d2FA10,d2FA11,d2FA12,d2FA13,d2FA14,d2FA15,d2FA16,d2FA17,d2FA18,",
   "d2FA19,d2FA1A,d2FA1B,d2FA1C,d2FA1D,B05E4aLANGUAGE TAG,1FaTAG SPACE,bEXCLAMATION MARK,",
   "bbQUOTATION ,bNUMBER SIGN,bbDOLLAR ,bbPERCENT ,bAMPERSAND,bAPOSTROPHE,bLEFT PARENTHESIS,",
   "bbRIGHT ,bASTERISK,bPLUS SIGN,bCOMMA,bHYPHEN-MINUS,bFULL STOP,bSOLIDUS,bDIGIT ZERO,cONE,cTWO,",
   "cTHREE,cFOUR,cFIVE,cSIX,cSEVEN,cEIGHT,cNINE,bCOLON,bSEMICOLON,bLESS-THAN SIGN,bbEQUALS ,",
   "bbGREATER-THAN ,bQUESTION MARK,bCOMMERCIAL AT,bLATIN CAPITAL LETTER A,eB,eC,eD,eE,eF,eG,eH,eI,",
   "eJ,eK,eL,eM,eN,eO,eP,eQ,eR,eS,eT,eU,eV,eW,eX,eY,eZ,bLEFT SQUARE BRACKET,bREVERSE SOLIDUS,",
   "bRIGHT SQUARE BRACKET,bCIRCUMFLEX ACCENT,bLOW LINE,bGRAVE ACCENT,bLATIN SMALL LETTER A,eB,eC,",
   "eD,eE,eF,eG,eH,eI,eJ,eK,eL,eM,eN,eO,eP,eQ,eR,eS,eT,eU,eV,eW,eX,eY,eZ,bLEFT CURLY BRACKET,",
   "bVERTICAL LINE,bRIGHT CURLY BRACKET,bTILDE,aCANCEL TAG,81aVARIATION SELECTOR-17,0aVS17,",
   "aVARIATION SELECTOR-18,0aVS18,aVARIATION SELECTOR-19,0aVS19,aVARIATION SELECTOR-20,0aVS20,",
   "aVARIATION SELECTOR-21,0aVS21,aVARIATION SELECTOR-22,0aVS22,aVARIATION SELECTOR-23,0aVS23,",
   "aVARIATION SELECTOR-24,0aVS24,aVARIATION SELECTOR-25,0aVS25,aVARIATION SELECTOR-26,0aVS26,",
   "aVARIATION SELECTOR-27,0aVS27,aVARIATION SELECTOR-28,0aVS28,aVARIATION SELECTOR-29,0aVS29,",
   "aVARIATION SELECTOR-30,0aVS30,aVARIATION SELECTOR-31,0aVS31,aVARIATION SELECTOR-32,0aVS32,",
   "aVARIATION SELECTOR-33,0aVS33,aVARIATION SELECTOR-34,0aVS34,aVARIATION SELECTOR-35,0aVS35,",
   "aVARIATION SELECTOR-36,0aVS36,aVARIATION SELECTOR-37,0aVS37,aVARIATION SELECTOR-38,0aVS38,",
   "aVARIATION SELECTOR-39,0aVS39,aVARIATION SELECTOR-40,0aVS40,aVARIATION SELECTOR-41,0aVS41,",
   "aVARIATION SELECTOR-42,0aVS42,aVARIATION SELECTOR-43,0aVS43,aVARIATION SELECTOR-44,0aVS44,",
   "aVARIATION SELECTOR-45,0aVS45,aVARIATION SELECTOR-46,0aVS46,aVARIATION SELECTOR-47,0aVS47,",
   "aVARIATION SELECTOR-48,0aVS48,aVARIATION SELECTOR-49,0aVS49,aVARIATION SELECTOR-50,0aVS50,",
   "aVARIATION SELECTOR-51,0aVS51,aVARIATION SELECTOR-52,0aVS52,aVARIATION SELECTOR-53,0aVS53,",
   "aVARIATION SELECTOR-54,0aVS54,aVARIATION SELECTOR-55,0aVS55,aVARIATION SELECTOR-56,0aVS56,",
   "aVARIATION SELECTOR-57,0aVS57,aVARIATION SELECTOR-58,0aVS58,aVARIATION SELECTOR-59,0aVS59,",
   "aVARIATION SELECTOR-60,0aVS60,aVARIATION SELECTOR-61,0aVS61,aVARIATION SELECTOR-62,0aVS62,",
   "aVARIATION SELECTOR-63,0aVS63,aVARIATION SELECTOR-64,0aVS64,aVARIATION SELECTOR-65,0aVS65,",
   "aVARIATION SELECTOR-66,0aVS66,aVARIATION SELECTOR-67,0aVS67,aVARIATION SELECTOR-68,0aVS68,",
   "aVARIATION SELECTOR-69,0aVS69,aVARIATION SELECTOR-70,0aVS70,aVARIATION SELECTOR-71,0aVS71,",
   "aVARIATION SELECTOR-72,0aVS72,aVARIATION SELECTOR-73,0aVS73,aVARIATION SELECTOR-74,0aVS74,",
   "aVARIATION SELECTOR-75,0aVS75,aVARIATION SELECTOR-76,0aVS76,aVARIATION SELECTOR-77,0aVS77,",
   "aVARIATION SELECTOR-78,0aVS78,aVARIATION SELECTOR-79,0aVS79,aVARIATION SELECTOR-80,0aVS80,",
   "aVARIATION SELECTOR-81,0aVS81,aVARIATION SELECTOR-82,0aVS82,aVARIATION SELECTOR-83,0aVS83,",
   "aVARIATION SELECTOR-84,0aVS84,aVARIATION SELECTOR-85,0aVS85,aVARIATION SELECTOR-86,0aVS86,",
   "aVARIATION SELECTOR-87,0aVS87,aVARIATION SELECTOR-88,0aVS88,aVARIATION SELECTOR-89,0aVS89,",
   "aVARIATION SELECTOR-90,0aVS90,aVARIATION SELECTOR-91,0aVS91,aVARIATION SELECTOR-92,0aVS92,",
   "aVARIATION SELECTOR-93,0aVS93,aVARIATION SELECTOR-94,0aVS94,aVARIATION SELECTOR-95,0aVS95,",
   "aVARIATION SELECTOR-96,0aVS96,aVARIATION SELECTOR-97,0aVS97,aVARIATION SELECTOR-98,0aVS98,",
   "aVARIATION SELECTOR-99,0aVS99,aVARIATION SELECTOR-100,0aVS100,aVARIATION SELECTOR-101,0aVS101,",
   "aVARIATION SELECTOR-102,0aVS102,aVARIATION SELECTOR-103,0aVS103,aVARIATION SELECTOR-104,",
   "0aVS104,aVARIATION SELECTOR-105,0aVS105,aVARIATION SELECTOR-106,0aVS106,",
   "aVARIATION SELECTOR-107,0aVS107,aVARIATION SELECTOR-108,0aVS108,aVARIATION SELECTOR-109,",
   "0aVS109,aVARIATION SELECTOR-110,0aVS110,aVARIATION SELECTOR-111,0aVS111,",
   "aVARIATION SELECTOR-112,0aVS112,aVARIATION SELECTOR-113,0aVS113,aVARIATION SELECTOR-114,",
   "0aVS114,aVARIATION SELECTOR-115,0aVS115,aVARIATION SELECTOR-116,0aVS116,",
   "aVARIATION SELECTOR-117,0aVS117,aVARIATION SELECTOR-118,0aVS118,aVARIATION SELECTOR-119,",
   "0aVS119,aVARIATION SELECTOR-120,0aVS120,aVARIATION SELECTOR-121,0aVS121,",
   "aVARIATION SELECTOR-122,0aVS122,aVARIATION SELECTOR-123,0aVS123,aVARIATION SELECTOR-124,",
   "0aVS124,aVARIATION SELECTOR-125,0aVS125,aVARIATION SELECTOR-126,0aVS126,",
   "aVARIATION SELECTOR-127,0aVS127,aVARIATION SELECTOR-128,0aVS128,aVARIATION SELECTOR-129,",
   "0aVS129,aVARIATION SELECTOR-130,0aVS130,aVARIATION SELECTOR-131,0aVS131,",
   "aVARIATION SELECTOR-132,0aVS132,aVARIATION SELECTOR-133,0aVS133,aVARIATION SELECTOR-134,",
   "0aVS134,aVARIATION SELECTOR-135,0aVS135,aVARIATION SELECTOR-136,0aVS136,",
   "aVARIATION SELECTOR-137,0aVS137,aVARIATION SELECTOR-138,0aVS138,aVARIATION SELECTOR-139,",
   "0aVS139,aVARIATION SELECTOR-140,0aVS140,aVARIATION SELECTOR-141,0aVS141,",
   "aVARIATION SELECTOR-142,0aVS142,aVARIATION SELECTOR-143,0aVS143,aVARIATION SELECTOR-144,",
   "0aVS144,aVARIATION SELECTOR-145,0aVS145,aVARIATION SELECTOR-146,0aVS146,",
   "aVARIATION SELECTOR-147,0aVS147,aVARIATION SELECTOR-148,0aVS148,aVARIATION SELECTOR-149,",
   "0aVS149,aVARIATION SELECTOR-150,0aVS150,aVARIATION SELECTOR-151,0aVS151,",
   "aVARIATION SELECTOR-152,0aVS152,aVARIATION SELECTOR-153,0aVS153,aVARIATION SELECTOR-154,",
   "0aVS154,aVARIATION SELECTOR-155,0aVS155,aVARIATION SELECTOR-156,0aVS156,",
   "aVARIATION SELECTOR-157,0aVS157,aVARIATION SELECTOR-158,0aVS158,aVARIATION SELECTOR-159,",
   "0aVS159,aVARIATION SELECTOR-160,0aVS160,aVARIATION SELECTOR-161,0aVS161,",
   "aVARIATION SELECTOR-162,0aVS162,aVARIATION SELECTOR-163,0aVS163,aVARIATION SELECTOR-164,",
   "0aVS164,aVARIATION SELECTOR-165,0aVS165,aVARIATION SELECTOR-166,0aVS166,",
   "aVARIATION SELECTOR-167,0aVS167,aVARIATION SELECTOR-168,0aVS168,aVARIATION SELECTOR-169,",
   "0aVS169,aVARIATION SELECTOR-170,0aVS170,aVARIATION SELECTOR-171,0aVS171,",
   "aVARIATION SELECTOR-172,0aVS172,aVARIATION SELECTOR-173,0aVS173,aVARIATION SELECTOR-174,",
   "0aVS174,aVARIATION SELECTOR-175,0aVS175,aVARIATION SELECTOR-176,0aVS176,",
   "aVARIATION SELECTOR-177,0aVS177,aVARIATION SELECTOR-178,0aVS178,aVARIATION SELECTOR-179,",
   "0aVS179,aVARIATION SELECTOR-180,0aVS180,aVARIATION SELECTOR-181,0aVS181,",
   "aVARIATION SELECTOR-182,0aVS182,aVARIATION SELECTOR-183,0aVS183,aVARIATION SELECTOR-184,",
   "0aVS184,aVARIATION SELECTOR-185,0aVS185,aVARIATION SELECTOR-186,0aVS186,",
   "aVARIATION SELECTOR-187,0aVS187,aVARIATION SELECTOR-188,0aVS188,aVARIATION SELECTOR-189,",
   "0aVS189,aVARIATION SELECTOR-190,0aVS190,aVARIATION SELECTOR-191,0aVS191,",
   "aVARIATION SELECTOR-192,0aVS192,aVARIATION SELECTOR-193,0aVS193,aVARIATION SELECTOR-194,",
   "0aVS194,aVARIATION SELECTOR-195,0aVS195,aVARIATION SELECTOR-196,0aVS196,",
   "aVARIATION SELECTOR-197,0aVS197,aVARIATION SELECTOR-198,0aVS198,aVARIATION SELECTOR-199,",
   "0aVS199,aVARIATION SELECTOR-200,0aVS200,aVARIATION SELECTOR-201,0aVS201,",
   "aVARIATION SELECTOR-202,0aVS202,aVARIATION SELECTOR-203,0aVS203,aVARIATION SELECTOR-204,",
   "0aVS204,aVARIATION SELECTOR-205,0aVS205,aVARIATION SELECTOR-206,0aVS206,",
   "aVARIATION SELECTOR-207,0aVS207,aVARIATION SELECTOR-208,0aVS208,aVARIATION SELECTOR-209,",
   "0aVS209,aVARIATION SELECTOR-210,0aVS210,aVARIATION SELECTOR-211,0aVS211,",
   "aVARIATION SELECTOR-212,0aVS212,aVARIATION SELECTOR-213,0aVS213,aVARIATION SELECTOR-214,",
   "0aVS214,aVARIATION SELECTOR-215,0aVS215,aVARIATION SELECTOR-216,0aVS216,",
   "aVARIATION SELECTOR-217,0aVS217,aVARIATION SELECTOR-218,0aVS218,aVARIATION SELECTOR-219,",
   "0aVS219,aVARIATION SELECTOR-220,0aVS220,aVARIATION SELECTOR-221,0aVS221,",
   "aVARIATION SELECTOR-222,0aVS222,aVARIATION SELECTOR-223,0aVS223,aVARIATION SELECTOR-224,",
   "0aVS224,aVARIATION SELECTOR-225,0aVS225,aVARIATION SELECTOR-226,0aVS226,",
   "aVARIATION SELECTOR-227,0aVS227,aVARIATION SELECTOR-228,0aVS228,aVARIATION SELECTOR-229,",
   "0aVS229,aVARIATION SELECTOR-230,0aVS230,aVARIATION SELECTOR-231,0aVS231,",
   "aVARIATION SELECTOR-232,0aVS232,aVARIATION SELECTOR-233,0aVS233,aVARIATION SELECTOR-234,",
   "0aVS234,aVARIATION SELECTOR-235,0aVS235,aVARIATION SELECTOR-236,0aVS236,",
   "aVARIATION SELECTOR-237,0aVS237,aVARIATION SELECTOR-238,0aVS238,aVARIATION SELECTOR-239,",
   "0aVS239,aVARIATION SELECTOR-240,0aVS240,aVARIATION SELECTOR-241,0aVS241,",
   "aVARIATION SELECTOR-242,0aVS242,aVARIATION SELECTOR-243,0aVS243,aVARIATION SELECTOR-244,",
   "0aVS244,aVARIATION SELECTOR-245,0aVS245,aVARIATION SELECTOR-246,0aVS246,",
   "aVARIATION SELECTOR-247,0aVS247,aVARIATION SELECTOR-248,0aVS248,aVARIATION SELECTOR-249,",
   "0aVS249,aVARIATION SELECTOR-250,0aVS250,aVARIATION SELECTOR-251,0aVS251,",
   "aVARIATION SELECTOR-252,0aVS252,aVARIATION SELECTOR-253,0aVS253,aVARIATION SELECTOR-254,",
   "0aVS254,aVARIATION SELECTOR-255,0aVS255,aVARIATION SELECTOR-256,0aVS256,"]

end EnumCodec.Text
