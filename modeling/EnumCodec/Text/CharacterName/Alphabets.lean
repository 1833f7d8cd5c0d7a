/-!
# EnumCodec.Text.CharacterName.Alphabets

**The names of the characters up to U+1FFF.** The data are those of the Unicode standard, version
14, with the aliases of characters; names that a rule of the standard gives are left out. How an
entry tells a name from the one before is said where the entries are read.
-/

namespace EnumCodec.Text

/-- The names of the characters up to U+1FFF. -/
def alphabetNameRows : List String :=
  ["0aNUL,0aNULL,aSOH,0aSTART OF HEADING,cTEXT,0aSTX,aEND OF TEXT,0aETX,aEND OF TRANSMISSION,",
   "0aEOT,aENQ,0aENQUIRY,aACK,0aACKNOWLEDGE,aALERT,0aBEL,aBACKSPACE,0aBS,aCHARACTER TABULATION,",
   "0abHORIZONTAL ,0aHT,0aTAB,aEND OF LINE,0aEOL,0aLF,0aLINE FEED,0aNEW LINE,0aNL,",
   "aLINE TABULATION,0abVERTICAL ,0aVT,aFF,0aFORM FEED,aCARRIAGE RETURN,0aCR,aLOCKING-SHIFT ONE,",
   "0aSHIFT OUT,0aSO,aLOCKING-SHIFT ZERO,0aSHIFT IN,0aSI,aDATA LINK ESCAPE,0aDLE,aDC1,",
   "0aDEVICE CONTROL ONE,aDC2,0aDEVICE CONTROL TWO,aDC3,0aDEVICE CONTROL THREE,aDC4,",
   "0aDEVICE CONTROL FOUR,aNAK,0aNEGATIVE ACKNOWLEDGE,aSYN,0aSYNCHRONOUS IDLE,",
   "aEND OF TRANSMISSION BLOCK,0aETB,aCAN,0aCANCEL,aEND OF MEDIUM,0aEOM,aSUB,0aSUBSTITUTE,aESC,",
   "0aESCAPE,aFILE SEPARATOR,0aFS,0aINFORMATION SEPARATOR FOUR,aGROUP SEPARATOR,0aGS,",
   "0aINFORMATION SEPARATOR THREE,cTWO,0aRECORD SEPARATOR,0aRS,aINFORMATION SEPARATOR ONE,",
   "0aUNIT SEPARATOR,0aUS,aSPACE,0aSP,aEXCLAMATION MARK,abQUOTATION ,aNUMBER SIGN,abDOLLAR ,",
   "abPERCENT ,aAMPERSAND,aAPOSTROPHE,aLEFT PARENTHESIS,abRIGHT ,aASTERISK,aPLUS SIGN,aCOMMA,",
   "aHYPHEN-MINUS,aFULL STOP,aSOLIDUS,aDIGIT ZERO,bONE,bTWO,bTHREE,bFOUR,bFIVE,bSIX,bSEVEN,bEIGHT,",
   "bNINE,aCOLON,aSEMICOLON,aLESS-THAN SIGN,abEQUALS ,abGREATER-THAN ,aQUESTION MARK,",
   "aCOMMERCIAL AT,aLATIN CAPITAL LETTER A,dB,dC,dD,dE,dF,dG,dH,dI,dJ,dK,dL,dM,dN,dO,dP,dQ,dR,dS,",
   "dT,dU,dV,dW,dX,dY,dZ,aLEFT SQUARE BRACKET,aREVERSE SOLIDUS,aRIGHT SQUARE BRACKET,",
   "aCIRCUMFLEX ACCENT,aLOW LINE,aGRAVE ACCENT,aLATIN SMALL LETTER A,dB,dC,dD,dE,dF,dG,dH,dI,dJ,",
   "dK,dL,dM,dN,dO,dP,dQ,dR,dS,dT,dU,dV,dW,dX,dY,dZ,aLEFT CURLY BRACKET,aVERTICAL LINE,",
   "aRIGHT CURLY BRACKET,aTILDE,aDEL,0aDELETE,aPAD,0aPADDING CHARACTER,aHIGH OCTET PRESET,0aHOP,",
   "aBPH,0aBREAK PERMITTED HERE,aNBH,0aNO BREAK HERE,aIND,0aINDEX,aNEL,0aNEXT LINE,aSSA,",
   "0aSTART OF SELECTED AREA,adEND ,0aESA,aCHARACTER TABULATION SET,0acHORIZONTAL ,0aHTS,",
   "aCHARACTER TABULATION WITH JUSTIFICATION,0adHORIZONTAL ,0aHTJ,aLINE TABULATION SET,",
   "0acVERTICAL ,0aVTS,aPARTIAL LINE DOWN,0cFORWARD,0aPLD,aPARTIAL LINE BACKWARD,0cUP,0aPLU,",
   "aREVERSE INDEX,0bLINE FEED,0aRI,aSINGLE SHIFT TWO,0aSINGLE-SHIFT-2,0aSS2,aSINGLE SHIFT THREE,",
   "0aSINGLE-SHIFT-3,0aSS3,aDCS,0aDEVICE CONTROL STRING,aPRIVATE USE ONE,0bUSE-1,0aPU1,",
   "aPRIVATE USE TWO,0bUSE-2,0aPU2,aSET TRANSMIT STATE,0aSTS,aCANCEL CHARACTER,0aCCH,",
   "aMESSAGE WAITING,0aMW,aSPA,0aSTART OF GUARDED AREA,0cbPROTECTED ,abEND OF GUARDED ,",
   "0cbPROTECTED ,0aEPA,aSOS,0aSTART OF STRING,aSGC,0aSINGLE GRAPHIC CHARACTER INTRODUCER,aSCI,",
   "0aSINGLE CHARACTER INTRODUCER,abCONTROL SEQUENCE ,0aCSI,aST,0aSTRING TERMINATOR,",
   "aOPERATING SYSTEM COMMAND,0aOSC,aPM,0aPRIVACY MESSAGE,aAPC,0aAPPLICATION PROGRAM COMMAND,",
   "aNO-BREAK SPACE,0aNBSP,aINVERTED EXCLAMATION MARK,aCENT SIGN,abPOUND ,abCURRENCY ,abYEN ,",
   "aBROKEN BAR,aSECTION SIGN,aDIAERESIS,aCOPYRIGHT SIGN,aFEMININE ORDINAL INDICATOR,",
   "aLEFT-POINTING DOUBLE ANGLE QUOTATION MARK,aNOT SIGN,aSOFT HYPHEN,0aSHY,aREGISTERED SIGN,",
   "aMACRON,aDEGREE SIGN,abPLUS-MINUS ,aSUPERSCRIPT TWO,bTHREE,aACUTE ACCENT,aMICRO SIGN,",
   "abPILCROW ,aMIDDLE DOT,aCEDILLA,aSUPERSCRIPT ONE,aMASCULINE ORDINAL INDICATOR,",
   "aRIGHT-POINTING DOUBLE ANGLE QUOTATION MARK,aVULGAR FRACTION ONE QUARTER,dHALF,",
   "cTHREE QUARTERS,aINVERTED QUESTION MARK,aLATIN CAPITAL LETTER A WITH GRAVE,fACUTE,fCIRCUMFLEX,",
   "fTILDE,fDIAERESIS,fRING ABOVE,dAE,dC WITH CEDILLA,dE WITH GRAVE,fACUTE,fCIRCUMFLEX,fDIAERESIS,",
   "dI WITH GRAVE,fACUTE,fCIRCUMFLEX,fDIAERESIS,dETH,dN WITH TILDE,dO WITH GRAVE,fACUTE,",
   "fCIRCUMFLEX,fTILDE,fDIAERESIS,aMULTIPLICATION SIGN,aLATIN CAPITAL LETTER O WITH STROKE,",
   "dU WITH GRAVE,fACUTE,fCIRCUMFLEX,fDIAERESIS,dY WITH ACUTE,dTHORN,bSMALL LETTER SHARP S,",
   "dA WITH GRAVE,fACUTE,fCIRCUMFLEX,fTILDE,fDIAERESIS,fRING ABOVE,dAE,dC WITH CEDILLA,",
   "dE WITH GRAVE,fACUTE,fCIRCUMFLEX,fDIAERESIS,dI WITH GRAVE,fACUTE,fCIRCUMFLEX,fDIAERESIS,dETH,",
   "dN WITH TILDE,dO WITH GRAVE,fACUTE,fCIRCUMFLEX,fTILDE,fDIAERESIS,aDIVISION SIGN,",
   "aLATIN SMALL LETTER O WITH STROKE,dU WITH GRAVE,fACUTE,fCIRCUMFLEX,fDIAERESIS,dY WITH ACUTE,",
   "dTHORN,dY WITH DIAERESIS,bCAPITAL LETTER A WITH MACRON,beSMALL ,bCAPITAL LETTER A WITH BREVE,",
   "beSMALL ,bCAPITAL LETTER A WITH OGONEK,beSMALL ,bCAPITAL LETTER C WITH ACUTE,beSMALL ,",
   "bCAPITAL LETTER C WITH CIRCUMFLEX,beSMALL ,bCAPITAL LETTER C WITH DOT ABOVE,bfSMALL ,",
   "bCAPITAL LETTER C WITH CARON,beSMALL ,bcCAPITAL LETTER D ,beSMALL ,",
   "bCAPITAL LETTER D WITH STROKE,beSMALL ,bCAPITAL LETTER E WITH MACRON,beSMALL ,",
   "bCAPITAL LETTER E WITH BREVE,beSMALL ,bCAPITAL LETTER E WITH DOT ABOVE,bfSMALL ,",
   "bCAPITAL LETTER E WITH OGONEK,beSMALL ,bCAPITAL LETTER E WITH CARON,beSMALL ,",
   "bCAPITAL LETTER G WITH CIRCUMFLEX,beSMALL ,bCAPITAL LETTER G WITH BREVE,beSMALL ,",
   "bCAPITAL LETTER G WITH DOT ABOVE,bfSMALL ,bCAPITAL LETTER G WITH CEDILLA,beSMALL ,",
   "bCAPITAL LETTER H WITH CIRCUMFLEX,beSMALL ,bCAPITAL LETTER H WITH STROKE,beSMALL ,",
   "bCAPITAL LETTER I WITH TILDE,beSMALL ,bCAPITAL LETTER I WITH MACRON,beSMALL ,",
   "bCAPITAL LETTER I WITH BREVE,beSMALL ,bCAPITAL LETTER I WITH OGONEK,beSMALL ,",
   "bCAPITAL LETTER I WITH DOT ABOVE,bSMALL LETTER DOTLESS I,bCAPITAL LIGATURE IJ,bcSMALL ,",
   "bCAPITAL LETTER J WITH CIRCUMFLEX,beSMALL ,bCAPITAL LETTER K WITH CEDILLA,beSMALL ,dKRA,",
   "bCAPITAL LETTER L WITH ACUTE,beSMALL ,bCAPITAL LETTER L WITH CEDILLA,beSMALL ,",
   "bCAPITAL LETTER L WITH CARON,beSMALL ,bCAPITAL LETTER L WITH MIDDLE DOT,bfSMALL ,",
   "bCAPITAL LETTER L WITH STROKE,beSMALL ,bCAPITAL LETTER N WITH ACUTE,beSMALL ,",
   "bCAPITAL LETTER N WITH CEDILLA,beSMALL ,bCAPITAL LETTER N WITH CARON,beSMALL ,",
   "ePRECEDED BY APOSTROPHE,bCAPITAL LETTER ENG,bcSMALL ,bCAPITAL LETTER O WITH MACRON,beSMALL ,",
   "bCAPITAL LETTER O WITH BREVE,beSMALL ,bCAPITAL LETTER O WITH DOUBLE ACUTE,bfSMALL ,",
   "bCAPITAL LIGATURE OE,bcSMALL ,bCAPITAL LETTER R WITH ACUTE,beSMALL ,",
   "bCAPITAL LETTER R WITH CEDILLA,beSMALL ,bCAPITAL LETTER R WITH CARON,beSMALL ,",
   "bCAPITAL LETTER S WITH ACUTE,beSMALL ,bCAPITAL LETTER S WITH CIRCUMFLEX,beSMALL ,",
   "bCAPITAL LETTER S WITH CEDILLA,beSMALL ,bCAPITAL LETTER S WITH CARON,beSMALL ,",
   "bCAPITAL LETTER T WITH CEDILLA,beSMALL ,bCAPITAL LETTER T WITH CARON,beSMALL ,",
   "bCAPITAL LETTER T WITH STROKE,beSMALL ,bCAPITAL LETTER U WITH TILDE,beSMALL ,",
   "bCAPITAL LETTER U WITH MACRON,beSMALL ,bCAPITAL LETTER U WITH BREVE,beSMALL ,",
   "bCAPITAL LETTER U WITH RING ABOVE,bfSMALL ,bCAPITAL LETTER U WITH DOUBLE ACUTE,bfSMALL ,",
   "bCAPITAL LETTER U WITH OGONEK,beSMALL ,bCAPITAL LETTER W WITH CIRCUMFLEX,beSMALL ,",
   "bcCAPITAL LETTER Y ,beSMALL ,bCAPITAL LETTER Y WITH DIAERESIS,dZ WITH ACUTE,beSMALL ,",
   "bCAPITAL LETTER Z WITH DOT ABOVE,bfSMALL ,bCAPITAL LETTER Z WITH CARON,beSMALL ,dLONG S,",
   "dB WITH STROKE,bCAPITAL LETTER B WITH HOOK,fTOPBAR,beSMALL ,bCAPITAL LETTER TONE SIX,bdSMALL ,",
   "bCAPITAL LETTER OPEN O,dC WITH HOOK,beSMALL ,bCAPITAL LETTER AFRICAN D,dD WITH HOOK,fTOPBAR,",
   "beSMALL ,dTURNED DELTA,bCAPITAL LETTER REVERSED E,dSCHWA,dOPEN E,dF WITH HOOK,beSMALL ,",
   "bcCAPITAL LETTER G ,dGAMMA,bSMALL LETTER HV,bCAPITAL LETTER IOTA,dI WITH STROKE,dK WITH HOOK,",
   "beSMALL ,dL WITH BAR,dLAMBDA WITH STROKE,bCAPITAL LETTER TURNED M,dN WITH LEFT HOOK,",
   "bSMALL LETTER N WITH LONG RIGHT LEG,bCAPITAL LETTER O WITH MIDDLE TILDE,fHORN,beSMALL ,",
   "bCAPITAL LETTER OI,0dGHA,bSMALL LETTER OI,0dGHA,bCAPITAL LETTER P WITH HOOK,beSMALL ,",
   "bLETTER YR,bCAPITAL LETTER TONE TWO,bdSMALL ,bCAPITAL LETTER ESH,bLETTER REVERSED ESH LOOP,",
   "bSMALL LETTER T WITH PALATAL HOOK,bbCAPITAL LETTER T WITH ,beSMALL ,",
   "bbCAPITAL LETTER T WITH RETROFLEX ,dU WITH HORN,beSMALL ,bCAPITAL LETTER UPSILON,dV WITH HOOK,",
   "dcY ,beSMALL ,bCAPITAL LETTER Z WITH STROKE,beSMALL ,bCAPITAL LETTER EZH,dEZH REVERSED,",
   "bdSMALL ,eWITH TAIL,bLETTER TWO WITH STROKE,bCAPITAL LETTER TONE FIVE,bdSMALL ,",
   "bLETTER INVERTED GLOTTAL STOP WITH STROKE,cWYNN,cDENTAL CLICK,cbLATERAL ,cbALVEOLAR ,",
   "cbRETROFLEX ,bCAPITAL LETTER DZ WITH CARON,dcD WITH SMALL LETTER Z ,bcSMALL LETTER DZ ,",
   "bCAPITAL LETTER LJ,dL WITH SMALL LETTER J,bSMALL LETTER LJ,bCAPITAL LETTER NJ,",
   "dN WITH SMALL LETTER J,bSMALL LETTER NJ,bCAPITAL LETTER A WITH CARON,beSMALL ,",
   "bcCAPITAL LETTER I ,beSMALL ,bcCAPITAL LETTER O ,beSMALL ,bcCAPITAL LETTER U ,beSMALL ,",
   "bCAPITAL LETTER U WITH DIAERESIS AND MACRON,bgSMALL ,",
   "bCAPITAL LETTER U WITH DIAERESIS AND ACUTE,bgSMALL ,",
   "bCAPITAL LETTER U WITH DIAERESIS AND CARON,bgSMALL ,",
   "bCAPITAL LETTER U WITH DIAERESIS AND GRAVE,bgSMALL ,dTURNED E,",
   "bCAPITAL LETTER A WITH DIAERESIS AND MACRON,bgSMALL ,bcCAPITAL LETTER A WITH DOT ABOVE ,",
   "bhSMALL ,bbCAPITAL LETTER AE WITH ,beSMALL ,bCAPITAL LETTER G WITH STROKE,beSMALL ,",
   "bCAPITAL LETTER G WITH CARON,beSMALL ,bcCAPITAL LETTER K ,beSMALL ,",
   "bCAPITAL LETTER O WITH OGONEK,beSMALL ,bCAPITAL LETTER O WITH OGONEK AND MACRON,bgSMALL ,",
   "bCAPITAL LETTER EZH WITH CARON,beSMALL ,dcJ ,bCAPITAL LETTER DZ,dD WITH SMALL LETTER Z,",
   "bSMALL LETTER DZ,bCAPITAL LETTER G WITH ACUTE,beSMALL ,bCAPITAL LETTER HWAIR,dWYNN,",
   "dN WITH GRAVE,beSMALL ,bCAPITAL LETTER A WITH RING ABOVE AND ACUTE,bhSMALL ,",
   "bbCAPITAL LETTER AE WITH ,beSMALL ,bbCAPITAL LETTER O WITH STROKE AND ,bgSMALL ,",
   "bCAPITAL LETTER A WITH DOUBLE GRAVE,bfSMALL ,bCAPITAL LETTER A WITH INVERTED BREVE,bfSMALL ,",
   "bCAPITAL LETTER E WITH DOUBLE GRAVE,bfSMALL ,bCAPITAL LETTER E WITH INVERTED BREVE,bfSMALL ,",
   "bCAPITAL LETTER I WITH DOUBLE GRAVE,bfSMALL ,bCAPITAL LETTER I WITH INVERTED BREVE,bfSMALL ,",
   "bCAPITAL LETTER O WITH DOUBLE GRAVE,bfSMALL ,bCAPITAL LETTER O WITH INVERTED BREVE,bfSMALL ,",
   "bCAPITAL LETTER R WITH DOUBLE GRAVE,bfSMALL ,bCAPITAL LETTER R WITH INVERTED BREVE,bfSMALL ,",
   "bCAPITAL LETTER U WITH DOUBLE GRAVE,bfSMALL ,bCAPITAL LETTER U WITH INVERTED BREVE,bfSMALL ,",
   "bCAPITAL LETTER S WITH COMMA BELOW,bfSMALL ,bdCAPITAL LETTER T ,bfSMALL ,bCAPITAL LETTER YOGH,",
   "bcSMALL ,bCAPITAL LETTER H WITH CARON,beSMALL ,bCAPITAL LETTER N WITH LONG RIGHT LEG,",
   "bSMALL LETTER D WITH CURL,bCAPITAL LETTER OU,bcSMALL ,bCAPITAL LETTER Z WITH HOOK,beSMALL ,",
   "bCAPITAL LETTER A WITH DOT ABOVE,bfSMALL ,bCAPITAL LETTER E WITH CEDILLA,beSMALL ,",
   "bCAPITAL LETTER O WITH DIAERESIS AND MACRON,bgSMALL ,bcCAPITAL LETTER O WITH TILDE ,bgSMALL ,",
   "bCAPITAL LETTER O WITH DOT ABOVE,bfSMALL ,bCAPITAL LETTER O WITH DOT ABOVE AND MACRON,",
   "bhSMALL ,bbCAPITAL LETTER Y WITH ,beSMALL ,dL WITH CURL,dcN ,dcT ,dDOTLESS J,dDB DIGRAPH,",
   "dbQP ,bCAPITAL LETTER A WITH STROKE,dcC ,beSMALL ,bCAPITAL LETTER L WITH BAR,",
   "dT WITH DIAGONAL STROKE,bSMALL LETTER S WITH SWASH TAIL,ddZ ,bCAPITAL LETTER GLOTTAL STOP,",
   "bdSMALL ,bCAPITAL LETTER B WITH STROKE,dU BAR,dTURNED V,dE WITH STROKE,beSMALL ,",
   "bcCAPITAL LETTER J ,beSMALL ,bCAPITAL LETTER SMALL Q WITH HOOK TAIL,beSMALL LETTER ,",
   "bCAPITAL LETTER R WITH STROKE,beSMALL ,bcCAPITAL LETTER Y ,beSMALL ,dTURNED A,dALPHA,",
   "dbTURNED ,dB WITH HOOK,dOPEN O,dC WITH CURL,dD WITH TAIL,fHOOK,dREVERSED E,dSCHWA,",
   "dSCHWA WITH HOOK,dOPEN E,dcREVERSED ,fE WITH HOOK,dCLOSED REVERSED OPEN E,",
   "dDOTLESS J WITH STROKE,dG WITH HOOK,dSCRIPT G,bbLETTER SMALL CAPITAL ,bSMALL LETTER GAMMA,",
   "dRAMS HORN,dTURNED H,dH WITH HOOK,dcHENG ,dI WITH STROKE,dIOTA,bLETTER SMALL CAPITAL I,",
   "bSMALL LETTER L WITH MIDDLE TILDE,fBELT,fRETROFLEX HOOK,dLEZH,dTURNED M,eM WITH LONG LEG,",
   "dM WITH HOOK,dbN WITH LEFT ,fbRETROFLEX ,bLETTER SMALL CAPITAL N,bSMALL LETTER BARRED O,",
   "bLETTER SMALL CAPITAL OE,bSMALL LETTER CLOSED OMEGA,dPHI,dTURNED R,eR WITH LONG LEG,gHOOK,",
   "dR WITH LONG LEG,fTAIL,fFISHHOOK,ddREVERSED ,bLETTER SMALL CAPITAL R,ebINVERTED ,",
   "bSMALL LETTER S WITH HOOK,dESH,dDOTLESS J WITH STROKE AND HOOK,dSQUAT REVERSED ESH,",
   "dESH WITH CURL,dTURNED T,dT WITH RETROFLEX HOOK,dU BAR,dUPSILON,dV WITH HOOK,dTURNED V,eW,eY,",
   "bbLETTER SMALL CAPITAL ,bSMALL LETTER Z WITH RETROFLEX HOOK,fCURL,dEZH,dEZH WITH CURL,",
   "bLETTER GLOTTAL STOP,cPHARYNGEAL VOICED FRICATIVE,cINVERTED GLOTTAL STOP,cSTRETCHED C,",
   "cBILABIAL CLICK,cSMALL CAPITAL B,bSMALL LETTER CLOSED OPEN E,",
   "bLETTER SMALL CAPITAL G WITH HOOK,eH,bSMALL LETTER J WITH CROSSED-TAIL,dTURNED K,",
   "bLETTER SMALL CAPITAL L,bSMALL LETTER Q WITH HOOK,bLETTER GLOTTAL STOP WITH STROKE,",
   "ceREVERSED ,bSMALL LETTER DZ DIGRAPH,dbDEZH ,dDZ DIGRAPH WITH CURL,dTS DIGRAPH,dbTESH ,",
   "dTC DIGRAPH WITH CURL,dFENG DIGRAPH,dbLS ,dbLZ ,bLETTER BILABIAL PERCUSSIVE,cbBIDENTAL ,",
   "bSMALL LETTER TURNED H WITH FISHHOOK,gFISHHOOK AND TAIL,aMODIFIER LETTER SMALL H,dH WITH HOOK,",
   "dJ,dR,dbTURNED ,eR WITH HOOK,dCAPITAL INVERTED R,dW,dY,cPRIME,cbDOUBLE ,cTURNED COMMA,",
   "cAPOSTROPHE,cREVERSED COMMA,cRIGHT HALF RING,ccLEFT ,cGLOTTAL STOP,ccREVERSED ,",
   "cLEFT ARROWHEAD,cbRIGHT ,cbUP ,cbDOWN ,cCIRCUMFLEX ACCENT,aCARON,",
   "aMODIFIER LETTER VERTICAL LINE,cMACRON,cACUTE ACCENT,cbGRAVE ,cLOW VERTICAL LINE,dMACRON,",
   "dGRAVE ACCENT,dbACUTE ,cTRIANGULAR COLON,ccHALF ,cCENTRED RIGHT HALF RING,dcLEFT ,cUP TACK,",
   "cbDOWN ,cPLUS SIGN,cbMINUS ,aBREVE,aDOT ABOVE,abRING ,aOGONEK,aSMALL TILDE,",
   "aDOUBLE ACUTE ACCENT,aMODIFIER LETTER RHOTIC HOOK,cCROSS ACCENT,cSMALL GAMMA,dL,dS,dX,",
   "dREVERSED GLOTTAL STOP,cEXTRA-HIGH TONE BAR,cd,ccMID ,ccLOW ,cdEXTRA-,",
   "cYIN DEPARTING TONE MARK,cdYANG ,cVOICING,cUNASPIRATED,cDOUBLE APOSTROPHE,cLOW DOWN ARROWHEAD,",
   "dbUP ,dbLEFT ,dbRIGHT ,dRING,cMIDDLE GRAVE ACCENT,dcDOUBLE ,ebACUTE ,cLOW TILDE,cRAISED COLON,",
   "cBEGIN HIGH TONE,ccEND ,cbBEGIN LOW ,ccEND ,cSHELF,cbOPEN ,cLOW LEFT ARROW,",
   "aCOMBINING GRAVE ACCENT,bbACUTE ,bbCIRCUMFLEX ,bTILDE,bMACRON,bOVERLINE,bBREVE,bDOT ABOVE,",
   "bDIAERESIS,bHOOK ABOVE,bbRING ,bDOUBLE ACUTE ACCENT,bCARON,bVERTICAL LINE ABOVE,bdDOUBLE ,",
   "cGRAVE ACCENT,bCANDRABINDU,bINVERTED BREVE,bTURNED COMMA ABOVE,bc,bcREVERSED ,",
   "bCOMMA ABOVE RIGHT,bGRAVE ACCENT BELOW,bcACUTE ,bbLEFT TACK ,bcRIGHT ,bLEFT ANGLE ABOVE,bHORN,",
   "bLEFT HALF RING BELOW,bbUP TACK ,bcDOWN ,bbPLUS SIGN ,bcMINUS ,bbPALATALIZED HOOK ,",
   "bcRETROFLEX ,bbDOT ,bbDIAERESIS ,bbRING ,bbCOMMA ,bCEDILLA,bOGONEK,bVERTICAL LINE BELOW,",
   "bbBRIDGE ,bbINVERTED DOUBLE ARCH ,bbCARON ,bbCIRCUMFLEX ACCENT ,bbBREVE ,bcINVERTED ,bbTILDE ,",
   "bbMACRON ,bLOW LINE,bcDOUBLE ,bTILDE OVERLAY,bbSHORT STROKE ,bcLONG ,bbSHORT SOLIDUS ,bcLONG ,",
   "bRIGHT HALF RING BELOW,bbINVERTED BRIDGE ,bbSQUARE ,bbSEAGULL ,bX ABOVE,bVERTICAL TILDE,",
   "bDOUBLE OVERLINE,bGRAVE TONE MARK,bcACUTE ,bGREEK PERISPOMENI,cKORONIS,cDIALYTIKA TONOS,",
   "cYPOGEGRAMMENI,bBRIDGE ABOVE,bEQUALS SIGN BELOW,bbDOUBLE VERTICAL LINE ,bbLEFT ANGLE ,",
   "bNOT TILDE ABOVE,bbHOMOTHETIC ,bbALMOST EQUAL TO ,bLEFT RIGHT ARROW BELOW,bcUPWARDS ,",
   "bGRAPHEME JOINER,0aCGJ,aCOMBINING RIGHT ARROWHEAD ABOVE,bbLEFT HALF RING ,bFERMATA,bX BELOW,",
   "bbLEFT ARROWHEAD ,bcRIGHT ,dbAND UP ARROWHEAD ,cHALF RING ABOVE,bDOT ABOVE RIGHT,",
   "bASTERISK BELOW,bbDOUBLE RING ,bZIGZAG ABOVE,bDOUBLE BREVE BELOW,cBREVE,cMACRON,cMACRON BELOW,",
   "cTILDE,cINVERTED BREVE,cRIGHTWARDS ARROW BELOW,bLATIN SMALL LETTER A,eE,eI,eO,eU,eC,eD,eH,eM,",
   "eR,eT,eV,eX,aGREEK CAPITAL LETTER HETA,bcSMALL ,bCAPITAL LETTER ARCHAIC SAMPI,bdSMALL ,",
   "bNUMERAL SIGN,bcLOWER ,bCAPITAL LETTER PAMPHYLIAN DIGAMMA,bdSMALL ,3bYPOGEGRAMMENI,",
   "bSMALL REVERSED LUNATE SIGMA SYMBOL,cdDOTTED ,ceREVERSED ,bQUESTION MARK,bCAPITAL LETTER YOT,",
   "5bTONOS,bbDIALYTIKA ,bbCAPITAL LETTER ALPHA WITH ,bANO TELEIA,",
   "bCAPITAL LETTER EPSILON WITH TONOS,dcETA ,dcIOTA ,2dcOMICRON ,2dcUPSILON ,dcOMEGA ,",
   "bbSMALL LETTER IOTA WITH DIALYTIKA AND ,bCAPITAL LETTER ALPHA,dBETA,dGAMMA,dDELTA,dEPSILON,",
   "dZETA,dETA,dTHETA,dIOTA,dKAPPA,dLAMDA,dMU,dNU,dXI,dOMICRON,dPI,dRHO,2dSIGMA,dTAU,dUPSILON,",
   "dPHI,dCHI,dPSI,dOMEGA,dIOTA WITH DIALYTIKA,dcUPSILON ,bSMALL LETTER ALPHA WITH TONOS,",
   "dcEPSILON ,dcETA ,dcIOTA ,dbUPSILON WITH DIALYTIKA AND ,dALPHA,dBETA,dGAMMA,dDELTA,dEPSILON,",
   "dZETA,dETA,dTHETA,dIOTA,dKAPPA,dLAMDA,dMU,dNU,dXI,dOMICRON,dPI,dRHO,dFINAL SIGMA,db,dTAU,",
   "dUPSILON,dPHI,dCHI,dPSI,dOMEGA,dIOTA WITH DIALYTIKA,dcUPSILON ,dOMICRON WITH TONOS,dcUPSILON ,",
   "dcOMEGA ,bCAPITAL KAI SYMBOL,bbBETA ,bbTHETA ,bbUPSILON WITH HOOK ,dcACUTE AND ,ddDIAERESIS ,",
   "bbPHI ,bbPI ,bbKAI ,bLETTER ARCHAIC KOPPA,bdSMALL ,bLETTER STIGMA,bcSMALL ,bLETTER DIGAMMA,",
   "bcSMALL ,bLETTER KOPPA,bcSMALL ,bLETTER SAMPI,bcSMALL ,aCOPTIC CAPITAL LETTER SHEI,bcSMALL ,",
   "bCAPITAL LETTER FEI,bcSMALL ,bCAPITAL LETTER KHEI,bcSMALL ,bCAPITAL LETTER HORI,bcSMALL ,",
   "bCAPITAL LETTER GANGIA,bcSMALL ,bCAPITAL LETTER SHIMA,bcSMALL ,bCAPITAL LETTER DEI,bcSMALL ,",
   "aGREEK KAPPA SYMBOL,bbRHO ,bbLUNATE SIGMA ,bLETTER YOT,bCAPITAL THETA SYMBOL,",
   "bbLUNATE EPSILON ,bdREVERSED ,bCAPITAL LETTER SHO,bcSMALL ,bCAPITAL LUNATE SIGMA SYMBOL,",
   "cLETTER SAN,bcSMALL ,bRHO WITH STROKE SYMBOL,bbCAPITAL REVERSED LUNATE SIGMA ,cdDOTTED ,",
   "ceREVERSED ,aCYRILLIC CAPITAL LETTER IE WITH GRAVE,dIO,dDJE,dGJE,dUKRAINIAN IE,dDZE,",
   "dBYELORUSSIAN-UKRAINIAN I,dYI,dJE,dLJE,dNJE,dTSHE,dKJE,dI WITH GRAVE,dSHORT U,dDZHE,dA,dBE,",
   "dVE,dGHE,dDE,dIE,dZHE,dZE,dI,dbSHORT ,dKA,dEL,dEM,dEN,dO,dPE,dER,dES,dTE,dU,dEF,dHA,dTSE,dCHE,",
   "dSHA,dSHCHA,dHARD SIGN,dYERU,dSOFT SIGN,dE,dYU,dYA,bSMALL LETTER A,dBE,dVE,dGHE,dDE,dIE,dZHE,",
   "dZE,dI,dbSHORT ,dKA,dEL,dEM,dEN,dO,dPE,dER,dES,dTE,dU,dEF,dHA,dTSE,dCHE,dSHA,dSHCHA,",
   "dHARD SIGN,dYERU,dSOFT SIGN,dE,dYU,dYA,dIE WITH GRAVE,dIO,dDJE,dGJE,dUKRAINIAN IE,dDZE,",
   "dBYELORUSSIAN-UKRAINIAN I,dYI,dJE,dLJE,dNJE,dTSHE,dKJE,dI WITH GRAVE,dSHORT U,dDZHE,",
   "bCAPITAL LETTER OMEGA,bcSMALL ,bCAPITAL LETTER YAT,bcSMALL ,bCAPITAL LETTER IOTIFIED E,",
   "bdSMALL ,bCAPITAL LETTER LITTLE YUS,bdSMALL ,bcCAPITAL LETTER IOTIFIED ,beSMALL ,",
   "bbCAPITAL LETTER BIG ,bdSMALL ,bcCAPITAL LETTER IOTIFIED ,beSMALL ,bCAPITAL LETTER KSI,",
   "bcSMALL ,bCAPITAL LETTER PSI,bcSMALL ,bCAPITAL LETTER FITA,bcSMALL ,bCAPITAL LETTER IZHITSA,",
   "bcSMALL ,bCAPITAL LETTER IZHITSA WITH DOUBLE GRAVE ACCENT,bgSMALL ,bCAPITAL LETTER UK,",
   "bcSMALL ,bCAPITAL LETTER ROUND OMEGA,bdSMALL ,bCAPITAL LETTER OMEGA WITH TITLO,beSMALL ,",
   "bCAPITAL LETTER OT,bcSMALL ,bCAPITAL LETTER KOPPA,bcSMALL ,bTHOUSANDS SIGN,",
   "aCOMBINING CYRILLIC TITLO,cPALATALIZATION,cDASIA PNEUMATA,cbPSILI ,cPOKRYTIE,",
   "cHUNDRED THOUSANDS SIGN,cbMILLIONS ,aCYRILLIC CAPITAL LETTER SHORT I WITH TAIL,bfSMALL ,",
   "bCAPITAL LETTER SEMISOFT SIGN,bdSMALL ,bCAPITAL LETTER ER WITH TICK,beSMALL ,",
   "bCAPITAL LETTER GHE WITH UPTURN,beSMALL ,bCAPITAL LETTER GHE WITH STROKE,beSMALL ,",
   "bCAPITAL LETTER GHE WITH MIDDLE HOOK,bfSMALL ,bCAPITAL LETTER ZHE WITH DESCENDER,beSMALL ,",
   "bcCAPITAL LETTER ZE ,beSMALL ,bcCAPITAL LETTER KA ,beSMALL ,",
   "bCAPITAL LETTER KA WITH VERTICAL STROKE,bfSMALL ,bbCAPITAL LETTER KA WITH ,beSMALL ,",
   "bCAPITAL LETTER BASHKIR KA,bdSMALL ,bCAPITAL LETTER EN WITH DESCENDER,beSMALL ,",
   "bCAPITAL LIGATURE EN GHE,bdSMALL ,bCAPITAL LETTER PE WITH MIDDLE HOOK,bfSMALL ,",
   "bCAPITAL LETTER ABKHASIAN HA,bdSMALL ,bCAPITAL LETTER ES WITH DESCENDER,beSMALL ,",
   "bcCAPITAL LETTER TE ,beSMALL ,bCAPITAL LETTER STRAIGHT U,bdSMALL ,",
   "bCAPITAL LETTER STRAIGHT U WITH STROKE,bfSMALL ,bCAPITAL LETTER HA WITH DESCENDER,beSMALL ,",
   "bCAPITAL LIGATURE TE TSE,bdSMALL ,bCAPITAL LETTER CHE WITH DESCENDER,beSMALL ,",
   "bCAPITAL LETTER CHE WITH VERTICAL STROKE,bfSMALL ,bCAPITAL LETTER SHHA,bcSMALL ,",
   "bCAPITAL LETTER ABKHASIAN CHE,bdSMALL ,bCAPITAL LETTER ABKHASIAN CHE WITH DESCENDER,bfSMALL ,",
   "bLETTER PALOCHKA,bCAPITAL LETTER ZHE WITH BREVE,beSMALL ,bCAPITAL LETTER KA WITH HOOK,",
   "beSMALL ,bCAPITAL LETTER EL WITH TAIL,beSMALL ,bCAPITAL LETTER EN WITH HOOK,beSMALL ,",
   "bCAPITAL LETTER EN WITH TAIL,beSMALL ,bCAPITAL LETTER KHAKASSIAN CHE,bdSMALL ,",
   "bCAPITAL LETTER EM WITH TAIL,beSMALL ,dPALOCHKA,bCAPITAL LETTER A WITH BREVE,beSMALL ,",
   "bCAPITAL LETTER A WITH DIAERESIS,beSMALL ,bCAPITAL LIGATURE A IE,bdSMALL ,",
   "bCAPITAL LETTER IE WITH BREVE,beSMALL ,bCAPITAL LETTER SCHWA,bcSMALL ,",
   "bCAPITAL LETTER SCHWA WITH DIAERESIS,beSMALL ,bcCAPITAL LETTER ZHE ,beSMALL ,",
   "bcCAPITAL LETTER ZE ,beSMALL ,bCAPITAL LETTER ABKHASIAN DZE,bdSMALL ,",
   "bCAPITAL LETTER I WITH MACRON,beSMALL ,bCAPITAL LETTER I WITH DIAERESIS,beSMALL ,",
   "bcCAPITAL LETTER O ,beSMALL ,bCAPITAL LETTER BARRED O,bdSMALL ,",
   "bCAPITAL LETTER BARRED O WITH DIAERESIS,bfSMALL ,bcCAPITAL LETTER E ,beSMALL ,",
   "bCAPITAL LETTER U WITH MACRON,beSMALL ,bCAPITAL LETTER U WITH DIAERESIS,beSMALL ,",
   "bCAPITAL LETTER U WITH DOUBLE ACUTE,bfSMALL ,bCAPITAL LETTER CHE WITH DIAERESIS,beSMALL ,",
   "bCAPITAL LETTER GHE WITH DESCENDER,beSMALL ,bCAPITAL LETTER YERU WITH DIAERESIS,beSMALL ,",
   "bCAPITAL LETTER GHE WITH STROKE AND HOOK,bgSMALL ,bbCAPITAL LETTER HA WITH ,beSMALL ,",
   "bCAPITAL LETTER HA WITH STROKE,beSMALL ,bCAPITAL LETTER KOMI DE,bdSMALL ,",
   "bCAPITAL LETTER KOMI DJE,bdSMALL ,bCAPITAL LETTER KOMI ZJE,bdSMALL ,bCAPITAL LETTER KOMI DZJE,",
   "bdSMALL ,bCAPITAL LETTER KOMI LJE,bdSMALL ,bCAPITAL LETTER KOMI NJE,bdSMALL ,",
   "bCAPITAL LETTER KOMI SJE,bdSMALL ,bCAPITAL LETTER KOMI TJE,bdSMALL ,",
   "bCAPITAL LETTER REVERSED ZE,bdSMALL ,bCAPITAL LETTER EL WITH HOOK,beSMALL ,",
   "bCAPITAL LETTER LHA,bcSMALL ,bCAPITAL LETTER RHA,bcSMALL ,bCAPITAL LETTER YAE,bcSMALL ,",
   "bCAPITAL LETTER QA,bcSMALL ,bCAPITAL LETTER WE,bcSMALL ,bCAPITAL LETTER ALEUT KA,bdSMALL ,",
   "bCAPITAL LETTER EL WITH MIDDLE HOOK,bfSMALL ,bdCAPITAL LETTER EN ,bfSMALL ,",
   "bCAPITAL LETTER PE WITH DESCENDER,beSMALL ,bcCAPITAL LETTER SHHA ,beSMALL ,",
   "bCAPITAL LETTER EN WITH LEFT HOOK,bfSMALL ,bCAPITAL LETTER DZZHE,bcSMALL ,",
   "bCAPITAL LETTER DCHE,bcSMALL ,bCAPITAL LETTER EL WITH DESCENDER,beSMALL ,",
   "2aARMENIAN CAPITAL LETTER AYB,dBEN,dGIM,dDA,dECH,dZA,dEH,dET,dTO,dZHE,dINI,dLIWN,dXEH,dCA,",
   "dKEN,dHO,dJA,dGHAD,dCHEH,dMEN,dYI,dNOW,dSHA,dVO,dCHA,dPEH,dJHEH,dRA,dSEH,dVEW,dTIWN,dREH,dCO,",
   "dYIWN,dPIWR,dKEH,dOH,dFEH,3bMODIFIER LETTER LEFT HALF RING,bAPOSTROPHE,bEMPHASIS MARK,",
   "bbEXCLAMATION ,bCOMMA,bQUESTION MARK,bbABBREVIATION ,bSMALL LETTER TURNED AYB,db,dBEN,dGIM,",
   "dDA,dECH,dZA,dEH,dET,dTO,dZHE,dINI,dLIWN,dXEH,dCA,dKEN,dHO,dJA,dGHAD,dCHEH,dMEN,dYI,dNOW,dSHA,",
   "dVO,dCHA,dPEH,dJHEH,dRA,dSEH,dVEW,dTIWN,dREH,dCO,dYIWN,dPIWR,dKEH,dOH,dFEH,cLIGATURE ECH YIWN,",
   "cLETTER YI WITH STROKE,bFULL STOP,bHYPHEN,3aRIGHT-FACING ARMENIAN ETERNITY SIGN,aeLEFT-,",
   "abARMENIAN DRAM ,2aHEBREW ACCENT ETNAHTA,cSEGOL,cSHALSHELET,cZAQEF QATAN,dGADOL,cTIPEHA,",
   "cREVIA,cZARQA,cPASHTA,cYETIV,cTEVIR,cGERESH,cGERESH MUQDAM,cGERSHAYIM,cQARNEY PARA,",
   "cTELISHA GEDOLA,cPAZER,cATNAH HAFUKH,cMUNAH,cMAHAPAKH,cMERKHA,cMERKHA KEFULA,cDARGA,cQADMA,",
   "cTELISHA QETANA,cYERAH BEN YOMO,cOLE,cILUY,cDEHI,cZINOR,bMARK MASORA CIRCLE,bPOINT SHEVA,",
   "cHATAF SEGOL,dPATAH,dQAMATS,cHIRIQ,cTSERE,cSEGOL,cPATAH,cQAMATS,cHOLAM,cHOLAM HASER FOR VAV,",
   "cQUBUTS,cDAGESH OR MAPIQ,cMETEG,bPUNCTUATION MAQAF,bPOINT RAFE,bPUNCTUATION PASEQ,",
   "bPOINT SHIN DOT,cbSIN ,bPUNCTUATION SOF PASUQ,bMARK UPPER DOT,cbLOWER ,",
   "bPUNCTUATION NUN HAFUKHA,bPOINT QAMATS QATAN,9bLETTER ALEF,cBET,cGIMEL,cDALET,cHE,cVAV,cZAYIN,",
   "cHET,cTET,cYOD,cFINAL KAF,cb,cLAMED,cFINAL MEM,cb,cFINAL NUN,cb,cSAMEKH,cAYIN,cFINAL PE,cb,",
   "cFINAL TSADI,cb,cQOF,cRESH,cSHIN,cTAV,5bYOD TRIANGLE,bLIGATURE YIDDISH DOUBLE VAV,dVAV YOD,",
   "dbDOUBLE ,bPUNCTUATION GERESH,cGERSHAYIM,CaARABIC NUMBER SIGN,bSIGN SANAH,bFOOTNOTE MARKER,",
   "bSIGN SAFHA,cSAMVAT,bNUMBER MARK ABOVE,aARABIC-INDIC CUBE ROOT,cbFOURTH ,aARABIC RAY,",
   "aARABIC-INDIC PER MILLE SIGN,dbTEN THOUSAND ,abAFGHANI ,aARABIC COMMA,bDATE SEPARATOR,",
   "bPOETIC VERSE SIGN,bSIGN MISRA,cSALLALLAHOU ALAYHE WASSALLAM,cALAYHE ASSALLAM,",
   "cRAHMATULLAH ALAYHE,cRADI ALLAHOU ANHU,cTAKHALLUS,bSMALL HIGH TAH,",
   "dLIGATURE ALEF WITH LAM WITH YEH,dZAIN,cFATHA,cDAMMA,cKASRA,bSEMICOLON,bLETTER MARK,0aALM,",
   "aARABIC END OF TEXT MARK,bbTRIPLE DOT PUNCTUATION ,bbQUESTION ,bLETTER KASHMIRI YEH,cHAMZA,",
   "cALEF WITH MADDA ABOVE,ebHAMZA ,cdWAW ,cALEF WITH HAMZA BELOW,cYEH WITH HAMZA ABOVE,cALEF,",
   "cBEH,cTEH MARBUTA,cTEH,cTHEH,cJEEM,cHAH,cKHAH,cDAL,cTHAL,cREH,cZAIN,cSEEN,cSHEEN,cSAD,cDAD,",
   "cTAH,cZAH,cAIN,cGHAIN,cKEHEH WITH TWO DOTS ABOVE,eTHREE DOTS BELOW,cFARSI YEH WITH INVERTED V,",
   "fTWO DOTS ABOVE,fcTHREE ,bTATWEEL,bLETTER FEH,cQAF,cKAF,cLAM,cMEEM,cNOON,cHEH,cWAW,",
   "cALEF MAKSURA,cYEH,bFATHATAN,bDAMMATAN,bKASRATAN,bFATHA,bDAMMA,bKASRA,bSHADDA,bSUKUN,",
   "bMADDAH ABOVE,bbHAMZA ,cBELOW,bSUBSCRIPT ALEF,bINVERTED DAMMA,bMARK NOON GHUNNA,bZWARAKAY,",
   "bVOWEL SIGN SMALL V ABOVE,ddINVERTED ,dDOT BELOW,bREVERSED DAMMA,bFATHA WITH TWO DOTS,",
   "bWAVY HAMZA BELOW,aARABIC-INDIC DIGIT ZERO,dONE,dTWO,dTHREE,dFOUR,dFIVE,dSIX,dSEVEN,dEIGHT,",
   "dNINE,aARABIC PERCENT SIGN,bDECIMAL SEPARATOR,bbTHOUSANDS ,bFIVE POINTED STAR,",
   "bLETTER DOTLESS BEH,dQAF,cSUPERSCRIPT ALEF,cALEF WASLA,dWITH WAVY HAMZA ABOVE,gBELOW,",
   "cHIGH HAMZA,dHAMZA ALEF,eWAW,cU WITH HAMZA ABOVE,cHIGH HAMZA YEH,cTTEH,cTTEHEH,cBEEH,",
   "cTEH WITH RING,eTHREE DOTS ABOVE DOWNWARDS,cPEH,cTEHEH,cBEHEH,cHAH WITH HAMZA ABOVE,",
   "ebTWO DOTS VERTICAL ,cNYEH,cDYEH,cHAH WITH THREE DOTS ABOVE,cTCHEH,cTCHEHEH,cDDAL,",
   "cDAL WITH RING,eDOT BELOW,fBELOW AND SMALL TAH,cDAHAL,cDDAHAL,cDUL,",
   "cDAL WITH THREE DOTS ABOVE DOWNWARDS,eFOUR DOTS ABOVE,cRREH,cREH WITH SMALL V,eRING,",
   "eDOT BELOW,ebSMALL V ,eDOT BELOW AND DOT ABOVE,ebTWO DOTS ,cJEH,cREH WITH FOUR DOTS ABOVE,",
   "cbSEEN WITH DOT BELOW AND DOT ,eTHREE DOTS BELOW,gBELOW AND THREE DOTS ABOVE,",
   "cSAD WITH TWO DOTS BELOW,eTHREE DOTS ABOVE,ceTAH ,ceAIN ,cDOTLESS FEH,",
   "cFEH WITH DOT MOVED BELOW,fb,cVEH,cFEH WITH THREE DOTS BELOW,cPEHEH,cQAF WITH DOT ABOVE,",
   "ebTHREE DOTS ,cKEHEH,cSWASH KAF,cKAF WITH RING,eDOT ABOVE,cNG,cKAF WITH THREE DOTS BELOW,cGAF,",
   "cGAF WITH RING,cNGOEH,cGAF WITH TWO DOTS BELOW,cGUEH,cGAF WITH THREE DOTS ABOVE,",
   "cLAM WITH SMALL V,eDOT ABOVE,ebTHREE DOTS ,gBELOW,cbNOON WITH DOT ,dGHUNNA,cRNOON,",
   "cNOON WITH RING,eTHREE DOTS ABOVE,cHEH DOACHASHMEE,cTCHEH WITH DOT ABOVE,cbHEH WITH YEH ,",
   "dGOAL,dGOAL WITH HAMZA ABOVE,cTEH MARBUTA GOAL,cWAW WITH RING,cKIRGHIZ OE,cb,cU,cYU,",
   "cbKIRGHIZ ,cWAW WITH TWO DOTS ABOVE,cVE,cFARSI YEH,cYEH WITH TAIL,eSMALL V,",
   "cWAW WITH DOT ABOVE,cE,cYEH WITH THREE DOTS BELOW,dBARREE,dBARREE WITH HAMZA ABOVE,bFULL STOP,",
   "bLETTER AE,bSMALL HIGH LIGATURE SAD WITH LAM WITH ALEF MAKSURA,efQAF ,dMEEM INITIAL FORM,",
   "dLAM ALEF,dJEEM,dTHREE DOTS,dSEEN,bEND OF AYAH,bSTART OF RUB EL HIZB,bSMALL HIGH ROUNDED ZERO,",
   "dbUPRIGHT RECTANGULAR ,dDOTLESS HEAD OF KHAH,dMEEM ISOLATED FORM,cLOW SEEN,cHIGH MADDA,cWAW,",
   "cYEH,cbHIGH ,dNOON,bPLACE OF SAJDAH,bEMPTY CENTRE LOW STOP,dbHIGH ,",
   "bROUNDED HIGH STOP WITH FILLED CENTRE,bSMALL LOW MEEM,bLETTER DAL WITH INVERTED V,cdREH ,",
   "aEXTENDED ARABIC-INDIC DIGIT ZERO,eONE,eTWO,eTHREE,eFOUR,eFIVE,eSIX,eSEVEN,eEIGHT,eNINE,",
   "aARABIC LETTER SHEEN WITH DOT BELOW,cdDAD ,cdGHAIN ,bSIGN SINDHI AMPERSAND,dPOSTPOSITION MEN,",
   "bLETTER HEH WITH INVERTED V,aSYRIAC END OF PARAGRAPH,bSUPRALINEAR FULL STOP,bcSUBLINEAR ,",
   "bSUPRALINEAR COLON,bbSUBLINEAR ,bbHORIZONTAL ,bCOLON SKEWED LEFT,dRIGHT,",
   "bSUPRALINEAR COLON SKEWED LEFT,bSUBLINEAR COLON SKEWED RIGHT,0eLEFT,bCONTRACTION,",
   "bHARKLEAN OBELUS,cMETOBELUS,cASTERISCUS,2bABBREVIATION MARK,bLETTER ALAPH,cbSUPERSCRIPT ,",
   "cBETH,cGAMAL,cGAMAL GARSHUNI,cDALATH,cDOTLESS DALATH RISH,cHE,cWAW,cZAIN,cHETH,cTETH,",
   "cTETH GARSHUNI,cYUDH,cYUDH HE,cKAPH,cLAMADH,cMIM,cNUN,cSEMKATH,cbFINAL ,cE,cPE,cbREVERSED ,",
   "cSADHE,cQAPH,cRISH,cSHIN,cTAW,cPERSIAN BHETH,dGHAMAL,dDHALATH,bPTHAHA ABOVE,cBELOW,cDOTTED,",
   "bZQAPHA ABOVE,cBELOW,cDOTTED,bRBASA ABOVE,cBELOW,bDOTTED ZLAMA HORIZONTAL,dANGULAR,",
   "bHBASA ABOVE,cBELOW,bHBASA-ESASA DOTTED,bESASA ABOVE,cBELOW,bRWAHA,bFEMININE DOT,bQUSHSHAYA,",
   "bRUKKAKHA,bTWO VERTICAL DOTS ABOVE,eBELOW,bTHREE DOTS ABOVE,dBELOW,bOBLIQUE LINE ABOVE,dBELOW,",
   "bMUSIC,bBARREKH,3bLETTER SOGDIAN ZHAIN,dKHAPH,dFE,",
   "aARABIC LETTER BEH WITH THREE DOTS HORIZONTALLY BELOW,eDOT BELOW AND THREE DOTS ABOVE,",
   "eTHREE DOTS POINTING UPWARDS BELOW,iBELOW AND TWO DOTS ABOVE,ebTWO DOTS BELOW AND DOT ,",
   "eINVERTED SMALL V BELOW,eSMALL V,cHAH WITH TWO DOTS ABOVE,eTHREE DOTS POINTING UPWARDS BELOW,",
   "cDAL WITH TWO DOTS VERTICALLY BELOW AND SMALL TAH,eINVERTED SMALL V BELOW,cREH WITH STROKE,",
   "cSEEN WITH FOUR DOTS ABOVE,ccAIN WITH TWO ,ebTHREE DOTS POINTING DOWNWARDS ,",
   "ebTWO DOTS VERTICALLY ,cFEH WITH TWO DOTS BELOW,ebTHREE DOTS POINTING UPWARDS ,",
   "cKEHEH WITH DOT ABOVE,ebTHREE DOTS ,gPOINTING UPWARDS BELOW,cMEEM WITH DOT ABOVE,fBELOW,",
   "cbNOON WITH TWO DOTS ,eSMALL TAH,fV,cLAM WITH BAR,cREH WITH TWO DOTS VERTICALLY ABOVE,",
   "ebHAMZA ,cbSEEN WITH TWO DOTS VERTICALLY ,cHAH WITH SMALL ARABIC LETTER TAH BELOW,",
   "iAND TWO DOTS,ciSEEN ,ciREH ,cHAH WITH SMALL ARABIC LETTER TAH ABOVE,",
   "cbALEF WITH EXTENDED ARABIC-INDIC DIGIT TWO ,ibTHREE ,",
   "cbFARSI YEH WITH EXTENDED ARABIC-INDIC DIGIT TWO ,jbTHREE ,jFOUR BELOW,",
   "cWAW WITH EXTENDED ARABIC-INDIC DIGIT TWO ABOVE,ibTHREE ,",
   "cbYEH BARREE WITH EXTENDED ARABIC-INDIC DIGIT TWO ,jbTHREE ,",
   "cHAH WITH EXTENDED ARABIC-INDIC DIGIT FOUR BELOW,",
   "cSEEN WITH EXTENDED ARABIC-INDIC DIGIT FOUR ABOVE,eINVERTED V,cKAF WITH TWO DOTS ABOVE,",
   "aTHAANA LETTER HAA,cSHAVIYANI,cNOONU,cRAA,cBAA,cLHAVIYANI,cKAAFU,cALIFU,cVAAVU,cMEEMU,cFAAFU,",
   "cDHAALU,cTHAA,cLAAMU,cGAAFU,cGNAVIYANI,cSEENU,cDAVIYANI,cZAVIYANI,cTAVIYANI,cYAA,cPAVIYANI,",
   "cJAVIYANI,cCHAVIYANI,cTTAA,cHHAA,cKHAA,cTHAALU,cZAA,cSHEENU,cSAADHU,cDAADHU,cTO,cZO,cAINU,",
   "cGHAINU,cQAAFU,cWAAVU,bABAFILI,bAABAAFILI,bIBIFILI,bEEBEEFILI,bUBUFILI,bOOBOOFILI,bEBEFILI,",
   "bEYBEYFILI,bOBOFILI,bOABOAFILI,bSUKUN,bLETTER NAA,FaNKO DIGIT ZERO,cONE,cTWO,cTHREE,cFOUR,",
   "cFIVE,cSIX,cSEVEN,cEIGHT,cNINE,bLETTER A,cEE,cI,cE,cU,cOO,cO,cDAGBASINNA,cN,cBA,cPA,cTA,cJA,",
   "cCHA,cDA,cRA,cRRA,cSA,cGBA,cFA,cKA,cLA,cNA WOLOSO,cMA,cNYA,cNA,cHA,cWA,cYA,cNYA WOLOSO,",
   "cJONA JA,dCHA,dRA,bCOMBINING SHORT HIGH TONE,dbLOW ,dbRISING ,cbLONG DESCENDING ,dbHIGH ,",
   "dbLOW ,dbRISING ,cNASALIZATION MARK,cDOUBLE DOT ABOVE,bHIGH TONE APOSTROPHE,bcLOW ,",
   "bSYMBOL OO DENNEN,cGBAKURUNEN,bCOMMA,bEXCLAMATION MARK,bLAJANYALAN,3bDANTAYALAN,bDOROME SIGN,",
   "bbTAMAN ,aSAMARITAN LETTER ALAF,cBIT,cGAMAN,cDALAT,cIY,cBAA,cZEN,cIT,cTIT,cYUT,cKAAF,cLABAT,",
   "cMIM,cNUN,cSINGAAT,cIN,cFI,cTSAADIY,cQUF,cRISH,cSHAN,cTAAF,bMARK IN,cIN-ALAF,cOCCLUSION,",
   "cDAGESH,bMODIFIER LETTER EPENTHETIC YUT,bcMARK ,bVOWEL SIGN LONG E,db,dOVERLONG AA,dbLONG ,db,",
   "dOVERLONG A,dbLONG ,db,bbMODIFIER LETTER SHORT ,bcVOWEL SIGN ,dLONG U,db,bMODIFIER LETTER I,",
   "bbVOWEL SIGN LONG ,db,dO,dSUKUN,bMARK NEQUDAA,3bbPUNCTUATION ,cAFSAAQ,cANGED,cBAU,cATMAAU,",
   "cSHIYYAALAA,bABBREVIATION MARK,bPUNCTUATION MELODIC QITSA,cZIQAA,cQITSA,cZAEF,cTURU,cARKAANU,",
   "cSOF MASHFAAT,cANNAAU,2aMANDAIC LETTER HALQA,cAB,cAG,cAD,cAH,cUSHENNA,cAZ,cIT,cATT,cAKSA,cAK,",
   "cAL,cAM,cAN,cAS,cIN,cAP,cASZ,cAQ,cAR,cASH,cAT,cDUSHENNA,cKAD,cAIN,bAFFRICATION MARK,",
   "bbVOCALIZATION ,bbGEMINATION ,3bPUNCTUATION,2aSYRIAC LETTER MALAYALAM NGA,dJA,dNYA,dTTA,dNNA,",
   "dNNNA,dBHA,dRA,dLLA,dLLLA,dSSA,6aARABIC LETTER ALEF WITH ATTACHED FATHA,fbTOP RIGHT ,",
   "eRIGHT MIDDLE STROKE,ecLEFT ,eATTACHED KASRA,fbBOTTOM RIGHT ,fROUND DOT ABOVE,",
   "fRIGHT ROUND DOT,fcLEFT ,fROUND DOT BELOW,eDOT ABOVE,ecATTACHED TOP RIGHT FATHA AND ,",
   "edRIGHT MIDDLE STROKE ,edATTACHED BOTTOM RIGHT KASRA ,fTOP RIGHT FATHA AND LEFT RING,",
   "edRIGHT MIDDLE STROKE ,edATTACHED BOTTOM RIGHT KASRA ,fRIGHT HAMZA,fbLEFT ,",
   "bbTATWEEL WITH OVERSTRUCK ,eWAW,dTWO DOTS BELOW,bLETTER THIN YEH,bBASELINE ROUND DOT,",
   "bcRAISED ,bLETTER NOON WITH INVERTED SMALL V,cHAH WITH INVERTED SMALL V BELOW,cbTAH WITH DOT ,",
   "ebTHREE DOTS ,cbKEHEH WITH TWO DOTS VERTICALLY ,bVERTICAL TAIL,2bPOUND MARK ABOVE,bcPIASTRE ,",
   "7bSMALL HIGH WORD AL-JUZ,cLOW WORD ISHMAAM,eIMAALA,eTASHEEL,bMADDA WAAJIB,",
   "bSUPERSCRIPT ALEF MOKHASSAS,bDOUBLED MADDA,bbHALF MADDA OVER ,bLETTER BEH WITH SMALL V BELOW,",
   "eHAMZA ABOVE,cbJEEM WITH TWO DOTS ,ceTAH ,ccFEH WITH DOT BELOW AND THREE ,cQAF WITH DOT BELOW,",
   "cLAM WITH DOUBLE BAR,cMEEM WITH THREE DOTS ABOVE,cbYEH WITH TWO DOTS BELOW AND HAMZA ,ibDOT ,",
   "cREH WITH LOOP,cWAW WITH DOT WITHIN,cROHINGYA YEH,cLOW ALEF,cDAL WITH THREE DOTS BELOW,ceSAD ,",
   "cGAF WITH INVERTED STROKE,cSTRAIGHT WAW,cZAIN WITH INVERTED V ABOVE,",
   "cAIN WITH THREE DOTS BELOW,cbKAF WITH DOT ,cQAF WITH DOT BELOW AND NO DOTS ABOVE,",
   "cbBEH WITH SMALL MEEM ,cePEH ,cbTEH WITH SMALL TEH ,cbREH WITH SMALL NOON ,",
   "cdYEH WITH TWO DOTS BELOW AND ,cAFRICAN FEH,dQAF,dNOON,cPEH WITH SMALL V,cdTEH ,cdTTEH ,",
   "cdTCHEH ,cdKEHEH ,cGHAIN WITH THREE DOTS ABOVE,ceAFRICAN QAF ,ceJEEM ,gBELOW,",
   "cLAM WITH SMALL ARABIC LETTER TAH ABOVE,cGRAF,bSMALL FARSI YEH,ccHIGH ,",
   "dYEH BARREE WITH TWO DOTS BELOW,dWORD SAH,dZAH,bLARGE ROUND DOT ABOVE,eBELOW,bbSUKUN ,",
   "bbLARGE CIRCLE ,ccROUND DOT INSIDE ,bSMALL LOW WAW,cHIGH WORD AR-RUB,dSAD,dAIN,dQAF,",
   "dNOON WITH KASRA,cdLOW ,cHIGH WORD ATH-THALATHA,eAS-SAJDA,eAN-NISF,eSAKTA,eQIF,eWAQFA,",
   "dFOOTNOTE MARKER,dSIGN SAFHA,bDISPUTED END OF AYAH,bTURNED DAMMA BELOW,bCURLY FATHA,cDAMMA,",
   "cKASRA,cFATHATAN,cDAMMATAN,cKASRATAN,bTONE ONE DOT ABOVE,cbTWO DOTS ,cbLOOP ,cONE DOT BELOW,",
   "cbTWO DOTS ,cbLOOP ,bOPEN FATHATAN,cDAMMATAN,cKASRATAN,bSMALL HIGH WAW,bFATHA WITH RING,",
   "dDOT ABOVE,bKASRA WITH DOT BELOW,bLEFT ARROWHEAD ABOVE,bcRIGHT ,bLEFT ARROWHEAD BELOW,",
   "bcRIGHT ,bDOUBLE RIGHT ARROWHEAD ABOVE,eABOVE WITH DOT,bf,bcDAMMA ,bMARK SIDEWAYS NOON GHUNNA,",
   "aDEVANAGARI SIGN INVERTED CANDRABINDU,cb,cANUSVARA,cVISARGA,bLETTER SHORT A,cb,cAA,cI,cII,cU,",
   "cUU,cVOCALIC R,dL,cCANDRA E,cbSHORT ,cb,cAI,cCANDRA O,cbSHORT ,cb,cAU,cKA,cKHA,cGA,cGHA,cNGA,",
   "cCA,cCHA,cJA,cJHA,cNYA,cTTA,cTTHA,cDDA,cDDHA,cNNA,cTA,cTHA,cDA,cDHA,cNA,cNNNA,cPA,cPHA,cBA,",
   "cBHA,cMA,cYA,cRA,cRRA,cLA,cLLA,cLLLA,cVA,cSHA,cSSA,cSA,cHA,bVOWEL SIGN OE,dOOE,bSIGN NUKTA,",
   "cAVAGRAHA,bVOWEL SIGN AA,dI,dII,dU,dUU,dVOCALIC R,eRR,dCANDRA E,dbSHORT ,db,dAI,dCANDRA O,",
   "dbSHORT ,db,dAU,bSIGN VIRAMA,bVOWEL SIGN PRISHTHAMATRA E,dAW,bOM,bSTRESS SIGN UDATTA,",
   "dANUDATTA,bGRAVE ACCENT,bbACUTE ,bVOWEL SIGN CANDRA LONG E,dUE,dUUE,bLETTER QA,cKHHA,cGHHA,",
   "cZA,cDDDHA,cRHA,cFA,cYYA,cVOCALIC RR,dLL,bVOWEL SIGN VOCALIC L,eLL,bDANDA,bbDOUBLE ,",
   "bDIGIT ZERO,cONE,cTWO,cTHREE,cFOUR,cFIVE,cSIX,cSEVEN,cEIGHT,cNINE,bABBREVIATION SIGN,",
   "bSIGN HIGH SPACING DOT,bLETTER CANDRA A,cOE,cOOE,cAW,cUE,cUUE,cMARWARI DDA,cZHA,cHEAVY YA,",
   "cGGA,cJJA,cGLOTTAL STOP,cDDDA,cBBA,aBENGALI ANJI,bSIGN CANDRABINDU,cANUSVARA,cVISARGA,",
   "2bLETTER A,cAA,cI,cII,cU,cUU,cVOCALIC R,dL,3cE,cAI,3cO,cAU,cKA,cKHA,cGA,cGHA,cNGA,cCA,cCHA,",
   "cJA,cJHA,cNYA,cTTA,cTTHA,cDDA,cDDHA,cNNA,cTA,cTHA,cDA,cDHA,cNA,2cPA,cPHA,cBA,cBHA,cMA,cYA,cRA,",
   "2cLA,4cSHA,cSSA,cSA,cHA,3bSIGN NUKTA,cAVAGRAHA,bVOWEL SIGN AA,dI,dII,dU,dUU,dVOCALIC R,eRR,",
   "3dE,dAI,3dO,dAU,bSIGN VIRAMA,bLETTER KHANDA TA,9bAU LENGTH MARK,5bLETTER RRA,cRHA,2cYYA,",
   "cVOCALIC RR,dLL,bVOWEL SIGN VOCALIC L,eLL,3bDIGIT ZERO,cONE,cTWO,cTHREE,cFOUR,cFIVE,cSIX,",
   "cSEVEN,cEIGHT,cNINE,bLETTER RA WITH MIDDLE DIAGONAL,ebLOWER ,bRUPEE MARK,cSIGN,",
   "bCURRENCY NUMERATOR ONE,dTWO,dTHREE,dFOUR,dONE LESS THAN THE DENOMINATOR,cDENOMINATOR SIXTEEN,",
   "bISSHAR,bGANDA MARK,bLETTER VEDIC ANUSVARA,bABBREVIATION SIGN,bSANDHI MARK,",
   "3aGURMUKHI SIGN ADAK BINDI,cb,cVISARGA,2bLETTER A,cAA,cI,cII,cU,cUU,5cEE,cAI,3cOO,cAU,cKA,",
   "cKHA,cGA,cGHA,cNGA,cCA,cCHA,cJA,cJHA,cNYA,cTTA,cTTHA,cDDA,cDDHA,cNNA,cTA,cTHA,cDA,cDHA,cNA,",
   "2cPA,cPHA,cBA,cBHA,cMA,cYA,cRA,2cLA,cLLA,2cVA,cSHA,2cSA,cHA,3bSIGN NUKTA,2bVOWEL SIGN AA,dI,",
   "dII,dU,dUU,5dEE,dAI,3dOO,dAU,bSIGN VIRAMA,4cUDAAT,8bLETTER KHHA,cGHHA,cZA,cRRA,2cFA,",
   "8bDIGIT ZERO,cONE,cTWO,cTHREE,cFOUR,cFIVE,cSIX,cSEVEN,cEIGHT,cNINE,bTIPPI,bADDAK,bIRI,bURA,",
   "bEK ONKAR,bSIGN YAKASH,bABBREVIATION SIGN,BaGUJARATI SIGN CANDRABINDU,cANUSVARA,cVISARGA,",
   "2bLETTER A,cAA,cI,cII,cU,cUU,cVOCALIC R,dL,bVOWEL CANDRA E,2bbLETTER ,cAI,bVOWEL CANDRA O,",
   "2bbLETTER ,cAU,cKA,cKHA,cGA,cGHA,cNGA,cCA,cCHA,cJA,cJHA,cNYA,cTTA,cTTHA,cDDA,cDDHA,cNNA,cTA,",
   "cTHA,cDA,cDHA,cNA,2cPA,cPHA,cBA,cBHA,cMA,cYA,cRA,2cLA,cLLA,2cVA,cSHA,cSSA,cSA,cHA,",
   "3bSIGN NUKTA,cAVAGRAHA,bVOWEL SIGN AA,dI,dII,dU,dUU,dVOCALIC R,eRR,dCANDRA E,2db,dAI,",
   "dCANDRA O,2db,dAU,bSIGN VIRAMA,3bOM,10bLETTER VOCALIC RR,dLL,bVOWEL SIGN VOCALIC L,eLL,",
   "3bDIGIT ZERO,cONE,cTWO,cTHREE,cFOUR,cFIVE,cSIX,cSEVEN,cEIGHT,cNINE,bABBREVIATION SIGN,",
   "bbRUPEE ,8bLETTER ZHA,bSIGN SUKUN,cSHADDA,cMADDAH,cTHREE-DOT NUKTA ABOVE,ccCIRCLE ,cdTWO-,",
   "2aORIYA SIGN CANDRABINDU,cANUSVARA,cVISARGA,2bLETTER A,cAA,cI,cII,cU,cUU,cVOCALIC R,dL,3cE,",
   "cAI,3cO,cAU,cKA,cKHA,cGA,cGHA,cNGA,cCA,cCHA,cJA,cJHA,cNYA,cTTA,cTTHA,cDDA,cDDHA,cNNA,cTA,cTHA,",
   "cDA,cDHA,cNA,2cPA,cPHA,cBA,cBHA,cMA,cYA,cRA,2cLA,cLLA,2cVA,cSHA,cSSA,cSA,cHA,3bSIGN NUKTA,",
   "cAVAGRAHA,bVOWEL SIGN AA,dI,dII,dU,dUU,dVOCALIC R,eRR,3dE,dAI,3dO,dAU,bSIGN VIRAMA,8cOVERLINE,",
   "bAI LENGTH MARK,bcAU ,5bLETTER RRA,cRHA,2cYYA,cVOCALIC RR,dLL,bVOWEL SIGN VOCALIC L,eLL,",
   "3bDIGIT ZERO,cONE,cTWO,cTHREE,cFOUR,cFIVE,cSIX,cSEVEN,cEIGHT,cNINE,bISSHAR,bLETTER WA,",
   "bFRACTION ONE QUARTER,dHALF,cTHREE QUARTERS,cONE SIXTEENTH,dEIGHTH,cTHREE SIXTEENTHS,",
   "BaTAMIL SIGN ANUSVARA,cVISARGA,2bLETTER A,cAA,cI,cII,cU,cUU,4cE,cEE,cAI,2cO,cOO,cAU,cKA,4cNGA,",
   "cCA,2cJA,2cNYA,cTTA,4cNNA,cTA,4cNA,cNNNA,cPA,4cMA,cYA,cRA,cRRA,cLA,cLLA,cLLLA,cVA,cSHA,cSSA,",
   "cSA,cHA,5bVOWEL SIGN AA,dI,dII,dU,dUU,4dE,dEE,dAI,2dO,dOO,dAU,bSIGN VIRAMA,3bOM,",
   "7bAU LENGTH MARK,FbDIGIT ZERO,cONE,cTWO,cTHREE,cFOUR,cFIVE,cSIX,cSEVEN,cEIGHT,cNINE,",
   "bNUMBER TEN,cONE HUNDRED,dTHOUSAND,bDAY SIGN,bbMONTH ,bbYEAR ,bbDEBIT ,bbCREDIT ,bbAS ABOVE ,",
   "bbRUPEE ,bbNUMBER ,6aTELUGU SIGN COMBINING CANDRABINDU ABOVE,cCANDRABINDU,cANUSVARA,cVISARGA,",
   "cCOMBINING ANUSVARA ABOVE,bLETTER A,cAA,cI,cII,cU,cUU,cVOCALIC R,dL,2cE,cEE,cAI,2cO,cOO,cAU,",
   "cKA,cKHA,cGA,cGHA,cNGA,cCA,cCHA,cJA,cJHA,cNYA,cTTA,cTTHA,cDDA,cDDHA,cNNA,cTA,cTHA,cDA,cDHA,",
   "cNA,2cPA,cPHA,cBA,cBHA,cMA,cYA,cRA,cRRA,cLA,cLLA,cLLLA,cVA,cSHA,cSSA,cSA,cHA,3bSIGN NUKTA,",
   "cAVAGRAHA,bVOWEL SIGN AA,dI,dII,dU,dUU,dVOCALIC R,eRR,2dE,dEE,dAI,2dO,dOO,dAU,bSIGN VIRAMA,",
   "8bLENGTH MARK,bcAI ,2bLETTER TSA,cDZA,cRRRA,3cNAKAARA POLLU,3cVOCALIC RR,dLL,",
   "bVOWEL SIGN VOCALIC L,eLL,3bDIGIT ZERO,cONE,cTWO,cTHREE,cFOUR,cFIVE,cSIX,cSEVEN,cEIGHT,cNINE,",
   "8bSIGN SIDDHAM,bFRACTION DIGIT ZERO FOR ODD POWERS OF FOUR,dfONE ,dfTWO ,dfTHREE ,",
   "ddONE FOR EVEN ,dfTWO ,dfTHREE ,bSIGN TUUMU,aKANNADA SIGN SPACING CANDRABINDU,cb,cANUSVARA,",
   "cVISARGA,cSIDDHAM,bLETTER A,cAA,cI,cII,cU,cUU,cVOCALIC R,dL,2cE,cEE,cAI,2cO,cOO,cAU,cKA,cKHA,",
   "cGA,cGHA,cNGA,cCA,cCHA,cJA,cJHA,cNYA,cTTA,cTTHA,cDDA,cDDHA,cNNA,cTA,cTHA,cDA,cDHA,cNA,2cPA,",
   "cPHA,cBA,cBHA,cMA,cYA,cRA,cRRA,cLA,cLLA,2cVA,cSHA,cSSA,cSA,cHA,3bSIGN NUKTA,cAVAGRAHA,",
   "bVOWEL SIGN AA,dI,dII,dU,dUU,dVOCALIC R,eRR,2dE,dEE,dAI,2dO,dOO,dAU,bSIGN VIRAMA,",
   "8bLENGTH MARK,bcAI ,7bLETTER NAKAARA POLLU,cFA,0cLLLA,2cVOCALIC RR,dLL,bVOWEL SIGN VOCALIC L,",
   "eLL,3bDIGIT ZERO,cONE,cTWO,cTHREE,cFOUR,cFIVE,cSIX,cSEVEN,cEIGHT,cNINE,2bSIGN JIHVAMULIYA,",
   "cUPADHMANIYA,EaMALAYALAM SIGN COMBINING ANUSVARA ABOVE,cCANDRABINDU,cANUSVARA,cVISARGA,",
   "bLETTER VEDIC ANUSVARA,cA,cAA,cI,cII,cU,cUU,cVOCALIC R,dL,2cE,cEE,cAI,2cO,cOO,cAU,cKA,cKHA,",
   "cGA,cGHA,cNGA,cCA,cCHA,cJA,cJHA,cNYA,cTTA,cTTHA,cDDA,cDDHA,cNNA,cTA,cTHA,cDA,cDHA,cNA,cNNNA,",
   "cPA,cPHA,cBA,cBHA,cMA,cYA,cRA,cRRA,cLA,cLLA,cLLLA,cVA,cSHA,cSSA,cSA,cHA,cTTTA,",
   "bSIGN VERTICAL BAR VIRAMA,cbCIRCULAR ,cAVAGRAHA,bVOWEL SIGN AA,dI,dII,dU,dUU,dVOCALIC R,eRR,",
   "2dE,dEE,dAI,2dO,dOO,dAU,bSIGN VIRAMA,bLETTER DOT REPH,bSIGN PARA,5bLETTER CHILLU M,dY,dLLL,",
   "bAU LENGTH MARK,bFRACTION ONE ONE-HUNDRED-AND-SIXTIETH,dFORTIETH,cTHREE EIGHTIETHS,",
   "cONE TWENTIETH,dTENTH,cTHREE TWENTIETHS,cONE FIFTH,bLETTER ARCHAIC II,cVOCALIC RR,dLL,",
   "bVOWEL SIGN VOCALIC L,eLL,3bDIGIT ZERO,cONE,cTWO,cTHREE,cFOUR,cFIVE,cSIX,cSEVEN,cEIGHT,cNINE,",
   "bNUMBER TEN,cONE HUNDRED,dTHOUSAND,bFRACTION ONE QUARTER,dHALF,cTHREE QUARTERS,cONE SIXTEENTH,",
   "dEIGHTH,cTHREE SIXTEENTHS,bDATE MARK,bLETTER CHILLU NN,dN,dRR,dL,dLL,dK,",
   "2aSINHALA SIGN CANDRABINDU,cANUSVARAYA,cVISARGAYA,2bLETTER AYANNA,cAAYANNA,cAEYANNA,cAEEYANNA,",
   "cIYANNA,cIIYANNA,cUYANNA,cUUYANNA,cIRUYANNA,cIRUUYANNA,cILUYANNA,cILUUYANNA,cEYANNA,cEEYANNA,",
   "cAIYANNA,cOYANNA,cOOYANNA,cAUYANNA,4cALPAPRAANA KAYANNA,cbMAHAAPRAANA ,cALPAPRAANA GAYANNA,",
   "cbMAHAAPRAANA ,cKANTAJA NAASIKYAYA,cSANYAKA GAYANNA,cALPAPRAANA CAYANNA,cbMAHAAPRAANA ,",
   "cALPAPRAANA JAYANNA,cbMAHAAPRAANA ,cTAALUJA NAASIKYAYA,dSANYOOGA NAAKSIKYAYA,cSANYAKA JAYANNA,",
   "cALPAPRAANA TTAYANNA,cbMAHAAPRAANA ,cALPAPRAANA DDAYANNA,cbMAHAAPRAANA ,cMUURDHAJA NAYANNA,",
   "cSANYAKA DDAYANNA,cALPAPRAANA TAYANNA,cbMAHAAPRAANA ,cALPAPRAANA DAYANNA,cbMAHAAPRAANA ,",
   "cDANTAJA NAYANNA,2cSANYAKA DAYANNA,cALPAPRAANA PAYANNA,cbMAHAAPRAANA ,cALPAPRAANA BAYANNA,",
   "cbMAHAAPRAANA ,cMAYANNA,cAMBA BAYANNA,cYAYANNA,cRAYANNA,2cDANTAJA LAYANNA,3cVAYANNA,",
   "cTAALUJA SAYANNA,cbMUURDHAJA ,cbDANTAJA ,cHAYANNA,cMUURDHAJA LAYANNA,cFAYANNA,",
   "4bSIGN AL-LAKUNA,5bVOWEL SIGN AELA-PILLA,dbKETTI AEDA-,dcDIGA ,dbKETTI IS-,dcDIGA ,",
   "dbKETTI PAA-,2dcDIGA ,2dbGAETTA-,dKOMBUVA,dbDIGA ,dKOMBU DEKA,dKOMBUVA HAA AELA-PILLA,fcDIGA ,",
   "fGAYANUKITTA,db,7bLITH DIGIT ZERO,dONE,dTWO,dTHREE,dFOUR,dFIVE,dSIX,dSEVEN,dEIGHT,dNINE,",
   "3bVOWEL SIGN DIGA GAETTA-PILLA,eGAYANUKITTA,bPUNCTUATION KUNDDALIYA,DaTHAI CHARACTER KO KAI,",
   "cKHO KHAI,dKHUAT,dKHWAI,dKHON,dRAKHANG,cNGO NGU,cCHO CHAN,dCHING,dCHANG,cSO SO,cCHO CHOE,",
   "cYO YING,cDO CHADA,cTO PATAK,cTHO THAN,dNANGMONTHO,dPHUTHAO,cNO NEN,cDO DEK,cTO TAO,",
   "cTHO THUNG,dTHAHAN,dTHONG,cNO NU,cBO BAIMAI,cPO PLA,cPHO PHUNG,cFO FA,cPHO PHAN,cFO FAN,",
   "cPHO SAMPHAO,cMO MA,cYO YAK,cRO RUA,cRU,cLO LING,cLU,cWO WAEN,cSO SALA,dRUSI,dSUA,cHO HIP,",
   "cLO CHULA,cO ANG,cHO NOKHUK,cPAIYANNOI,cSARA A,cMAI HAN-AKAT,cSARA AA,dAM,dI,dII,dUE,dUEE,dU,",
   "dUU,cPHINTHU,5bCURRENCY SYMBOL BAHT,bCHARACTER SARA E,dAE,dO,dAI MAIMUAN,eMAIMALAI,",
   "cLAKKHANGYAO,cMAIYAMOK,cMAITAIKHU,cMAI EK,dTHO,dTRI,dCHATTAWA,cTHANTHAKHAT,cNIKHAHIT,",
   "cYAMAKKAN,cFONGMAN,bDIGIT ZERO,cONE,cTWO,cTHREE,cFOUR,cFIVE,cSIX,cSEVEN,cEIGHT,cNINE,",
   "bCHARACTER ANGKHANKHU,cKHOMUT,26aLAO LETTER KO,cKHO SUNG,2dTAM,2cPALI GHA,cNGO,cCO,cPALI CHA,",
   "cSO TAM,2cPALI JHA,cNYO,cPALI NYA,dTTA,dTTHA,dDDA,dDDHA,dNNA,cDO,cTO,cTHO SUNG,dTAM,cPALI DHA,",
   "cNO,cBO,cPO,cPHO SUNG,cFO TAM,0dFON,cPHO TAM,cFO SUNG,0dFAY,cPALI BHA,cMO,cYO,cLO LING,0cRO,",
   "2cLO LOOT,0cLO,2cWO,cSANSKRIT SHA,dSSA,cSO SUNG,cbHO ,cPALI LLA,cO,cHO TAM,bELLIPSIS,",
   "bVOWEL SIGN A,dMAI KAN,dAA,dAM,dI,dII,dY,dYY,dU,dUU,bSIGN PALI VIRAMA,bVOWEL SIGN MAI KON,",
   "bSEMIVOWEL SIGN LO,dNYO,3bVOWEL SIGN E,dEI,dO,dAY,dAI,2bKO LA,2bTONE MAI EK,dTHO,dTI,dCATAWA,",
   "bCANCELLATION MARK,bNIGGAHITA,3bDIGIT ZERO,cONE,cTWO,cTHREE,cFOUR,cFIVE,cSIX,cSEVEN,cEIGHT,",
   "cNINE,3bHO NO,cMO,bLETTER KHMU GO,dNYO,21aTIBETAN SYLLABLE OM,bMARK GTER YIG MGO TRUNCATED A,",
   "f-UM RNAM BCAD MA,hbGTER TSHEG ,cbINITIAL YIG MGO MDUN ,cbCLOSING YIG MGO SGAB ,",
   "cbCARET YIG MGO PHUR SHAD ,ccYIG MGO TSHEG ,cSBRUL SHAD,cBSKUR YIG MGO,ccBKA- SHOG ,",
   "cINTERSYLLABIC TSHEG,cDELIMITER TSHEG BSTAR,cSHAD,cbNYIS ,cbTSHEG ,ccNYIS ,cbRIN CHEN SPUNGS ,",
   "cbRGYA GRAM ,cCARET -DZUD RTAGS ME LONG CAN,cGTER TSHEG,bLOGOTYPE SIGN CHAD RTAGS,dbLHAG ,",
   "bbASTROLOGICAL SIGN SGRA GCAN -CHAR ,d-KHYUD PA,dSDONG TSHUGS,bSIGN RDEL DKAR GCIG,eGNYIS,",
   "eGSUM,dNAG GCIG,eGNYIS,dDKAR RDEL NAG,bDIGIT ZERO,cONE,cTWO,cTHREE,cFOUR,cFIVE,cSIX,cSEVEN,",
   "cEIGHT,cNINE,cHALF ONE,dTWO,dTHREE,dFOUR,dFIVE,dSIX,dSEVEN,dEIGHT,dNINE,dZERO,",
   "bMARK BSDUS RTAGS,cNGAS BZUNG NYI ZLA,cCARET -DZUD RTAGS BZHI MIG CAN,cNGAS BZUNG SGOR RTAGS,",
   "cCHE MGO,cTSA -PHRU,cGUG RTAGS GYON,eGYAS,cANG KHANG GYON,eGYAS,bSIGN YAR TSHES,cbMAR ,",
   "bLETTER KA,cKHA,cGA,cGHA,cNGA,cCA,cCHA,cJA,2cNYA,cTTA,cTTHA,cDDA,cDDHA,cNNA,cTA,cTHA,cDA,cDHA,",
   "cNA,cPA,cPHA,cBA,cBHA,cMA,cTSA,cTSHA,cDZA,cDZHA,cWA,cZHA,cZA,c-A,cYA,cRA,cLA,cSHA,cSSA,cSA,",
   "cHA,cA,cKSSA,cFIXED-FORM RA,cKKA,cRRA,5bVOWEL SIGN AA,dI,dII,dU,dUU,dVOCALIC R,eRR,eL,eLL,dE,",
   "dEE,dO,dOO,bSIGN RJES SU NGA RO,cRNAM BCAD,bVOWEL SIGN REVERSED I,eII,bSIGN NYI ZLA NAA DA,",
   "cSNA LDAN,bMARK HALANTA,cPALUTA,bSIGN LCI RTAGS,cbYANG ,cLCE TSA CAN,cbMCHU ,cGRU CAN RGYINGS,",
   "dbMED ,cINVERTED MCHU CAN,bbSUBJOINED SIGN LCE TSA ,dbMCHU ,dcINVERTED ,cLETTER KA,dKHA,dGA,",
   "dGHA,dNGA,dCA,dCHA,dJA,2dNYA,dTTA,dTTHA,dDDA,dDDHA,dNNA,dTA,dTHA,dDA,dDHA,dNA,dPA,dPHA,dBA,",
   "dBHA,dMA,dTSA,dTSHA,dDZA,dDZHA,dWA,dZHA,dZA,d-A,dYA,dRA,dLA,dSHA,dSSA,dSA,dHA,dA,dKSSA,",
   "dFIXED-FORM WA,fYA,fRA,2bKU RU KHA,dKHA BZHI MIG CAN,bCANTILLATION SIGN HEAVY BEAT,dbLIGHT ,",
   "dCANG TE-U,dSBUB -CHAL,bSYMBOL DRIL BU,cRDO RJE,cPADMA GDAN,cRDO RJE RGYA GRAM,cPHUR PA,",
   "cNOR BU,dBU NYIS -KHYIL,ecGSUM ,ecBZHI ,2bSIGN RDEL NAG RDEL DKAR,eGSUM,",
   "bMARK BSKA- SHOG GI MGO RGYAN,0cfBKA-,cdMNYAM YIG ,cNYIS TSHEG,",
   "cINITIAL BRDA RNYING YIG MGO MDUN MA,cbCLOSING BRDA RNYING YIG MGO SGAB ,",
   "aRIGHT-FACING SVASTI SIGN,adLEFT-,aRIGHT-FACING SVASTI SIGN WITH DOTS,afLEFT-,",
   "aTIBETAN MARK LEADING MCHAN RTAGS,ccTRAILING ,26aMYANMAR LETTER KA,cKHA,cGA,cGHA,cNGA,cCA,",
   "cCHA,cJA,cJHA,cNYA,cNNYA,cTTA,cTTHA,cDDA,cDDHA,cNNA,cTA,cTHA,cDA,cDHA,cNA,cPA,cPHA,cBA,cBHA,",
   "cMA,cYA,cRA,cLA,cWA,cSA,cHA,cLLA,cA,cbSHAN ,cI,cII,cU,cUU,cE,cbMON ,cO,cAU,",
   "bVOWEL SIGN TALL AA,db,dI,dII,dU,dUU,dE,dAI,dMON II,eO,dE ABOVE,bSIGN ANUSVARA,cDOT BELOW,",
   "cVISARGA,cVIRAMA,cASAT,bCONSONANT SIGN MEDIAL YA,eRA,eWA,eHA,bLETTER GREAT SA,bDIGIT ZERO,",
   "cONE,cTWO,cTHREE,cFOUR,cFIVE,cSIX,cSEVEN,cEIGHT,cNINE,bSIGN LITTLE SECTION,cb,",
   "bSYMBOL LOCATIVE,cCOMPLETED,cAFOREMENTIONED,cGENITIVE,bLETTER SHA,cSSA,cVOCALIC R,dRR,dL,dLL,",
   "bVOWEL SIGN VOCALIC R,eRR,eL,eLL,bLETTER MON NGA,dJHA,dBBA,dBBE,bCONSONANT SIGN MON MEDIAL NA,",
   "fMA,fLA,bLETTER SGAW KAREN SHA,bVOWEL SIGN SGAW KAREN EU,bTONE MARK SGAW KAREN HATHI,fKE PHO,",
   "bLETTER WESTERN PWO KAREN THA,fPWA,bVOWEL SIGN WESTERN PWO KAREN EU,gUE,",
   "bSIGN WESTERN PWO KAREN TONE-1,g2,g3,g4,g5,bLETTER EASTERN PWO KAREN NNA,fYWA,fGHWA,",
   "bVOWEL SIGN GEBA KAREN I,dKAYAH OE,eU,eEE,bLETTER SHAN KA,dKHA,dGA,dCA,dZA,dNYA,dDA,dNA,dPHA,",
   "dFA,dBA,dTHA,dHA,bCONSONANT SIGN SHAN MEDIAL WA,bVOWEL SIGN SHAN AA,eE,eE ABOVE,eFINAL Y,",
   "bSIGN SHAN TONE-2,e3,e5,e6,dCOUNCIL TONE-2,f3,eEMPHATIC TONE,bLETTER RUMAI PALAUNG FA,",
   "bSIGN RUMAI PALAUNG TONE-5,bSHAN DIGIT ZERO,dONE,dTWO,dTHREE,dFOUR,dFIVE,dSIX,dSEVEN,dEIGHT,",
   "dNINE,bSIGN KHAMTI TONE-1,e3,bVOWEL SIGN AITON A,eAI,bSYMBOL SHAN ONE,dEXCLAMATION,",
   "aGEORGIAN CAPITAL LETTER AN,dBAN,dGAN,dDON,dEN,dVIN,dZEN,dTAN,dIN,dKAN,dLAS,dMAN,dNAR,dON,",
   "dPAR,dZHAR,dRAE,dSAN,dTAR,dUN,dPHAR,dKHAR,dGHAN,dQAR,dSHIN,dCHIN,dCAN,dJIL,dCIL,dCHAR,dXAN,",
   "dJHAN,dHAE,dHE,dHIE,dWE,dHAR,dHOE,2dYN,6dAEN,3bLETTER AN,cBAN,cGAN,cDON,cEN,cVIN,cZEN,cTAN,",
   "cIN,cKAN,cLAS,cMAN,cNAR,cON,cPAR,cZHAR,cRAE,cSAN,cTAR,cUN,cPHAR,cKHAR,cGHAN,cQAR,cSHIN,cCHIN,",
   "cCAN,cJIL,cCIL,cCHAR,cXAN,cJHAN,cHAE,cHE,cHIE,cWE,cHAR,cHOE,cFI,cYN,cELIFI,cTURNED GAN,cAIN,",
   "bPARAGRAPH SEPARATOR,aMODIFIER LETTER GEORGIAN NAR,aGEORGIAN LETTER AEN,cHARD SIGN,cbLABIAL ,",
   "aHANGUL CHOSEONG KIYEOK,cSSANGKIYEOK,cNIEUN,cTIKEUT,cSSANGTIKEUT,cRIEUL,cMIEUM,cPIEUP,",
   "cSSANGPIEUP,cSIOS,cSSANGSIOS,cIEUNG,cCIEUC,cSSANGCIEUC,cCHIEUCH,cKHIEUKH,cTHIEUTH,cPHIEUPH,",
   "cHIEUH,cNIEUN-KIYEOK,cSSANGNIEUN,cNIEUN-TIKEUT,dPIEUP,cTIKEUT-KIYEOK,cRIEUL-NIEUN,cSSANGRIEUL,",
   "cRIEUL-HIEUH,cKAPYEOUNRIEUL,cMIEUM-PIEUP,cKAPYEOUNMIEUM,cPIEUP-KIYEOK,dNIEUN,dTIKEUT,dSIOS,",
   "dSIOS-KIYEOK,eTIKEUT,ePIEUP,dSSANGSIOS,dSIOS-CIEUC,db,dCHIEUCH,dTHIEUTH,dPHIEUPH,",
   "cKAPYEOUNPIEUP,cKAPYEOUNSSANGPIEUP,cSIOS-KIYEOK,dNIEUN,dTIKEUT,dRIEUL,dMIEUM,dPIEUP,",
   "dPIEUP-KIYEOK,dSSANGSIOS,dIEUNG,dCIEUC,dCHIEUCH,dKHIEUKH,dTHIEUTH,dPHIEUPH,dHIEUH,",
   "cCHITUEUMSIOS,cCHITUEUMSSANGSIOS,cCEONGCHIEUMSIOS,cCEONGCHIEUMSSANGSIOS,cPANSIOS,",
   "cIEUNG-KIYEOK,dTIKEUT,dMIEUM,dPIEUP,dSIOS,dPANSIOS,cSSANGIEUNG,cIEUNG-CIEUC,dCHIEUCH,dTHIEUTH,",
   "dPHIEUPH,cYESIEUNG,cCIEUC-IEUNG,cCHITUEUMCIEUC,cCHITUEUMSSANGCIEUC,cCEONGCHIEUMCIEUC,",
   "cCEONGCHIEUMSSANGCIEUC,cCHIEUCH-KHIEUKH,dHIEUH,cCHITUEUMCHIEUCH,cCEONGCHIEUMCHIEUCH,",
   "cPHIEUPH-PIEUP,cKAPYEOUNPHIEUPH,cSSANGHIEUH,cYEORINHIEUH,cKIYEOK-TIKEUT,cNIEUN-SIOS,dCIEUC,",
   "dHIEUH,cTIKEUT-RIEUL,cFILLER,bbJUNGSEONG ,cA,cAE,cYA,cYAE,cEO,cE,cYEO,cYE,cO,cWA,cWAE,cOE,cYO,",
   "cU,cWEO,cWE,cWI,cYU,cEU,cYI,cI,cA-O,dU,cYA-O,dYO,cEO-O,dU,dEU,cYEO-O,dU,cO-EO,dE,dYE,dO,dU,",
   "cYO-YA,dYAE,dYEO,dO,dI,cU-A,dAE,dEO-EU,dYE,dU,cYU-A,dEO,dE,dYEO,dYE,dU,dI,cEU-U,dEU,cYI-U,",
   "cI-A,dYA,dO,dU,dEU,dARAEA,cb,cARAEA-EO,dU,dI,cSSANGARAEA,cA-EU,cYA-U,cYEO-YA,cbO-,dYAE,",
   "bJONGSEONG KIYEOK,cSSANGKIYEOK,cKIYEOK-SIOS,cNIEUN,cNIEUN-CIEUC,dHIEUH,cTIKEUT,cRIEUL,",
   "cRIEUL-KIYEOK,dMIEUM,dPIEUP,dSIOS,dTHIEUTH,dPHIEUPH,dHIEUH,cMIEUM,cPIEUP,cPIEUP-SIOS,cb,",
   "cSSANGSIOS,cIEUNG,cCIEUC,cCHIEUCH,cKHIEUKH,cTHIEUTH,cPHIEUPH,cHIEUH,cKIYEOK-RIEUL,",
   "dSIOS-KIYEOK,cbNIEUN-,dTIKEUT,dSIOS,dPANSIOS,dTHIEUTH,cTIKEUT-KIYEOK,dRIEUL,",
   "cRIEUL-KIYEOK-SIOS,dNIEUN,dTIKEUT,dTIKEUT-HIEUH,cSSANGRIEUL,cRIEUL-MIEUM-KIYEOK,eSIOS,",
   "dbPIEUP-,eHIEUH,dKAPYEOUNPIEUP,dSSANGSIOS,dPANSIOS,dKHIEUKH,dYEORINHIEUH,cMIEUM-KIYEOK,dRIEUL,",
   "dPIEUP,dSIOS,dSSANGSIOS,dPANSIOS,dCHIEUCH,dHIEUH,cKAPYEOUNMIEUM,cPIEUP-RIEUL,dPHIEUPH,dHIEUH,",
   "cKAPYEOUNPIEUP,cSIOS-KIYEOK,dTIKEUT,dRIEUL,dPIEUP,cPANSIOS,cIEUNG-KIYEOK,0cbYESIEUNG-,",
   "cIEUNG-SSANGKIYEOK,0cbYESIEUNG-,cSSANGIEUNG,0cSSANGYESIEUNG,cIEUNG-KHIEUKH,0cbYESIEUNG-,",
   "cYESIEUNG,cYESIEUNG-SIOS,dPANSIOS,cPHIEUPH-PIEUP,cKAPYEOUNPHIEUPH,cHIEUH-NIEUN,dRIEUL,dMIEUM,",
   "dPIEUP,cYEORINHIEUH,cKIYEOK-NIEUN,dPIEUP,dCHIEUCH,dKHIEUKH,dHIEUH,cSSANGNIEUN,",
   "aETHIOPIC SYLLABLE HA,cHU,cHI,cHAA,cHEE,cHE,cHO,cHOA,cLA,cLU,cLI,cLAA,cLEE,cLE,cLO,cLWA,cHHA,",
   "cHHU,cHHI,cHHAA,cHHEE,cHHE,cHHO,cHHWA,cMA,cMU,cMI,cMAA,cMEE,cME,cMO,cMWA,cSZA,cSZU,cSZI,cSZAA,",
   "cSZEE,cSZE,cSZO,cSZWA,cRA,cRU,cRI,cRAA,cREE,cRE,cRO,cRWA,cSA,cSU,cSI,cSAA,cSEE,cSE,cSO,cSWA,",
   "cSHA,cSHU,cSHI,cSHAA,cSHEE,cSHE,cSHO,cSHWA,cQA,cQU,cQI,cQAA,cQEE,cQE,cQO,cQOA,cQWA,2cQWI,",
   "cQWAA,cQWEE,cQWE,3cQHA,cQHU,cQHI,cQHAA,cQHEE,cQHE,cQHO,2cQHWA,2cQHWI,cQHWAA,cQHWEE,cQHWE,3cBA,",
   "cBU,cBI,cBAA,cBEE,cBE,cBO,cBWA,cVA,cVU,cVI,cVAA,cVEE,cVE,cVO,cVWA,cTA,cTU,cTI,cTAA,cTEE,cTE,",
   "cTO,cTWA,cCA,cCU,cCI,cCAA,cCEE,cCE,cCO,cCWA,cXA,cXU,cXI,cXAA,cXEE,cXE,cXO,cXOA,cXWA,2cXWI,",
   "cXWAA,cXWEE,cXWE,3cNA,cNU,cNI,cNAA,cNEE,cNE,cNO,cNWA,cNYA,cNYU,cNYI,cNYAA,cNYEE,cNYE,cNYO,",
   "cNYWA,cGLOTTAL A,dU,dI,dAA,dEE,dE,dO,dWA,cKA,cKU,cKI,cKAA,cKEE,cKE,cKO,cKOA,cKWA,2cKWI,cKWAA,",
   "cKWEE,cKWE,3cKXA,cKXU,cKXI,cKXAA,cKXEE,cKXE,cKXO,2cKXWA,2cKXWI,cKXWAA,cKXWEE,cKXWE,3cWA,cWU,",
   "cWI,cWAA,cWEE,cWE,cWO,cWOA,cPHARYNGEAL A,dU,dI,dAA,dEE,dE,dO,2cZA,cZU,cZI,cZAA,cZEE,cZE,cZO,",
   "cZWA,cZHA,cZHU,cZHI,cZHAA,cZHEE,cZHE,cZHO,cZHWA,cYA,cYU,cYI,cYAA,cYEE,cYE,cYO,cYOA,cDA,cDU,",
   "cDI,cDAA,cDEE,cDE,cDO,cDWA,cDDA,cDDU,cDDI,cDDAA,cDDEE,cDDE,cDDO,cDDWA,cJA,cJU,cJI,cJAA,cJEE,",
   "cJE,cJO,cJWA,cGA,cGU,cGI,cGAA,cGEE,cGE,cGO,cGOA,cGWA,2cGWI,cGWAA,cGWEE,cGWE,3cGGA,cGGU,cGGI,",
   "cGGAA,cGGEE,cGGE,cGGO,cGGWAA,cTHA,cTHU,cTHI,cTHAA,cTHEE,cTHE,cTHO,cTHWA,cCHA,cCHU,cCHI,cCHAA,",
   "cCHEE,cCHE,cCHO,cCHWA,cPHA,cPHU,cPHI,cPHAA,cPHEE,cPHE,cPHO,cPHWA,cTSA,cTSU,cTSI,cTSAA,cTSEE,",
   "cTSE,cTSO,cTSWA,cTZA,cTZU,cTZI,cTZAA,cTZEE,cTZE,cTZO,cTZOA,cFA,cFU,cFI,cFAA,cFEE,cFE,cFO,cFWA,",
   "cPA,cPU,cPI,cPAA,cPEE,cPE,cPO,cPWA,cRYA,cMYA,cFYA,",
   "3bCOMBINING GEMINATION AND VOWEL LENGTH MARK,cd,cbGEMINATION ,bbSECTION ,bWORDSPACE,",
   "bFULL STOP,bCOMMA,bSEMICOLON,bCOLON,bbPREFACE ,bQUESTION MARK,bPARAGRAPH SEPARATOR,bDIGIT ONE,",
   "cTWO,cTHREE,cFOUR,cFIVE,cSIX,cSEVEN,cEIGHT,cNINE,bNUMBER TEN,cTWENTY,cTHIRTY,cFORTY,cFIFTY,",
   "cSIXTY,cSEVENTY,cEIGHTY,cNINETY,cHUNDRED,cTEN THOUSAND,4bSYLLABLE SEBATBEIT MWA,cMWI,cMWEE,",
   "cMWE,cSEBATBEIT BWA,cBWI,cBWEE,cBWE,cSEBATBEIT FWA,cFWI,cFWEE,cFWE,cSEBATBEIT PWA,cPWI,cPWEE,",
   "cPWE,bTONAL MARK YIZET,dDERET,dRIKRIK,dbSHORT ,dDIFAT,dKENAT,dCHIRET,dHIDET,dbDERET-,dKURT,",
   "7aCHEROKEE LETTER A,cE,cI,cO,cU,cV,cGA,cKA,cGE,cGI,cGO,cGU,cGV,cHA,cHE,cHI,cHO,cHU,cHV,cLA,",
   "cLE,cLI,cLO,cLU,cLV,cMA,cME,cMI,cMO,cMU,cNA,cHNA,cNAH,cNE,cNI,cNO,cNU,cNV,cQUA,cQUE,cQUI,cQUO,",
   "cQUU,cQUV,cSA,cS,cSE,cSI,cSO,cSU,cSV,cDA,cTA,cDE,cTE,cDI,cTI,cDO,cDU,cDV,cDLA,cTLA,cTLE,cTLI,",
   "cTLO,cTLU,cTLV,cTSA,cTSE,cTSI,cTSO,cTSU,cTSV,cWA,cWE,cWI,cWO,cWU,cWV,cYA,cYE,cYI,cYO,cYU,cYV,",
   "cMV,3bSMALL LETTER YE,dYI,dYO,dYU,dYV,dMV,3aCANADIAN SYLLABICS HYPHEN,cE,cAAI,cI,cII,cO,cOO,",
   "cbY-CREE ,cCARRIER EE,dI,cA,cAA,cWE,cbWEST-CREE ,cWI,cbWEST-CREE ,cWII,cbWEST-CREE ,cWO,",
   "cbWEST-CREE ,cWOO,cbWEST-CREE ,cbNASKAPI ,cWA,cbWEST-CREE ,cWAA,cbWEST-CREE ,cbNASKAPI ,cAI,",
   "cY-CREE W,cGLOTTAL STOP,cFINAL ACUTE,dGRAVE,dBOTTOM HALF RING,dcTOP ,dcRIGHT ,db,",
   "dDOUBLE ACUTE,eSHORT VERTICAL STROKES,dMIDDLE DOT,dSHORT HORIZONTAL STROKE,dPLUS,dDOWN TACK,",
   "cEN,cIN,cON,cAN,cPE,cPAAI,cPI,cPII,cPO,cPOO,cbY-CREE ,cCARRIER HEE,dHI,cPA,cPAA,cPWE,",
   "cbWEST-CREE ,cPWI,cbWEST-CREE ,cPWII,cbWEST-CREE ,cPWO,cbWEST-CREE ,cPWOO,cbWEST-CREE ,cPWA,",
   "cbWEST-CREE ,cPWAA,cbWEST-CREE ,ccY-,cP,cbWEST-CREE ,cCARRIER H,cTE,cTAAI,cTI,cTII,cTO,cTOO,",
   "cbY-CREE ,cCARRIER DEE,dDI,cTA,cTAA,cTWE,cbWEST-CREE ,cTWI,cbWEST-CREE ,cTWII,cbWEST-CREE ,",
   "cTWO,cbWEST-CREE ,cTWOO,cbWEST-CREE ,cTWA,cbWEST-CREE ,cTWAA,cbWEST-CREE ,cbNASKAPI ,cT,cTTE,",
   "cTTI,cTTO,cTTA,cKE,cKAAI,cKI,cKII,cKO,cKOO,cbY-CREE ,cKA,cKAA,cKWE,cbWEST-CREE ,cKWI,",
   "cbWEST-CREE ,cKWII,cbWEST-CREE ,cKWO,cbWEST-CREE ,cKWOO,cbWEST-CREE ,cKWA,cbWEST-CREE ,cKWAA,",
   "cbWEST-CREE ,cbNASKAPI ,cK,cKW,cSOUTH-SLAVEY KEH,eKIH,eKOH,eKAH,cCE,cCAAI,cCI,cCII,cCO,cCOO,",
   "cbY-CREE ,cCA,cCAA,cCWE,cbWEST-CREE ,cCWI,cbWEST-CREE ,cCWII,cbWEST-CREE ,cCWO,cbWEST-CREE ,",
   "cCWOO,cbWEST-CREE ,cCWA,cbWEST-CREE ,cCWAA,cbWEST-CREE ,cbNASKAPI ,cC,cSAYISI TH,cME,cMAAI,",
   "cMI,cMII,cMO,cMOO,cbY-CREE ,cMA,cMAA,cMWE,cbWEST-CREE ,cMWI,cbWEST-CREE ,cMWII,cbWEST-CREE ,",
   "cMWO,cbWEST-CREE ,cMWOO,cbWEST-CREE ,cMWA,cbWEST-CREE ,cMWAA,cbWEST-CREE ,cbNASKAPI ,cM,",
   "cbWEST-CREE ,cMH,cATHAPASCAN M,cbSAYISI ,cNE,cNAAI,cNI,cNII,cNO,cNOO,cbY-CREE ,cNA,cNAA,cNWE,",
   "cbWEST-CREE ,cNWA,cbWEST-CREE ,cNWAA,cbWEST-CREE ,cbNASKAPI ,cN,cCARRIER NG,cNH,cLE,cLAAI,cLI,",
   "cLII,cLO,cLOO,cbY-CREE ,cLA,cLAA,cLWE,cbWEST-CREE ,cLWI,cbWEST-CREE ,cLWII,cbWEST-CREE ,cLWO,",
   "cbWEST-CREE ,cLWOO,cbWEST-CREE ,cLWA,cbWEST-CREE ,cLWAA,cbWEST-CREE ,cL,cbWEST-CREE ,",
   "cbMEDIAL ,cSE,cSAAI,cSI,cSII,cSO,cSOO,cbY-CREE ,cSA,cSAA,cSWE,cbWEST-CREE ,cSWI,cbWEST-CREE ,",
   "cSWII,cbWEST-CREE ,cSWO,cbWEST-CREE ,cSWOO,cbWEST-CREE ,cSWA,cbWEST-CREE ,cSWAA,cbWEST-CREE ,",
   "cbNASKAPI ,cS,cbATHAPASCAN ,cSW,cBLACKFOOT S,cMOOSE-CREE SK,cNASKAPI SKW,dS-W,dSPWA,dSTWA,",
   "dSKWA,dSCWA,cSHE,cSHI,cSHII,cSHO,cSHOO,cSHA,cSHAA,cSHWE,cbWEST-CREE ,cSHWI,cbWEST-CREE ,",
   "cSHWII,cbWEST-CREE ,cSHWO,cbWEST-CREE ,cSHWOO,cbWEST-CREE ,cSHWA,cbWEST-CREE ,cSHWAA,",
   "cbWEST-CREE ,cSH,cYE,cYAAI,cYI,cYII,cYO,cYOO,cbY-CREE ,cYA,cYAA,cYWE,cbWEST-CREE ,cYWI,",
   "cbWEST-CREE ,cYWII,cbWEST-CREE ,cYWO,cbWEST-CREE ,cYWOO,cbWEST-CREE ,cYWA,cbWEST-CREE ,cYWAA,",
   "cbWEST-CREE ,cbNASKAPI ,cY,cbBIBLE-CREE ,ccWEST-,cSAYISI YI,cRE,cbR-CREE ,cWEST-CREE LE,cRAAI,",
   "cRI,cRII,cRO,cROO,cWEST-CREE LO,cRA,cRAA,cWEST-CREE LA,cRWAA,cbWEST-CREE ,cR,cbWEST-CREE ,",
   "cbMEDIAL ,cFE,cFAAI,cFI,cFII,cFO,cFOO,cFA,cFAA,cFWAA,cbWEST-CREE ,cF,cTHE,cbN-CREE ,cTHI,",
   "cbN-CREE ,cTHII,cbN-CREE ,cTHO,cTHOO,cTHA,cTHAA,cTHWAA,cbWEST-CREE ,cTH,cTTHE,cTTHI,cTTHO,",
   "cTTHA,cTTH,cTYE,cTYI,cTYO,cTYA,cNUNAVIK HE,dHI,dHII,dHO,dHOO,dHA,dHAA,dH,cbNUNAVUT ,cHK,cQAAI,",
   "cQI,cQII,cQO,cQOO,cQA,cQAA,cQ,cTLHE,cTLHI,cTLHO,cTLHA,cWEST-CREE RE,eRI,eRO,eRA,cNGAAI,cNGI,",
   "cNGII,cNGO,cNGOO,cNGA,cNGAA,cNG,cNNG,cSAYISI SHE,dSHI,dSHO,dSHA,cWOODS-CREE THE,eTHI,eTHO,",
   "eTHA,eTH,cLHI,cLHII,cLHO,cLHOO,cLHA,cLHAA,cLH,cTH-CREE THE,eTHI,eTHII,eTHO,eTHOO,eTHA,eTHAA,",
   "eTH,cAIVILIK B,cBLACKFOOT E,dI,dO,dA,dWE,dWI,dWO,dWA,dNE,dNI,dNO,dNA,dKE,dKI,dKO,dKA,",
   "cSAYISI HE,dHI,dHO,dHA,cCARRIER GHU,dGHO,dGHE,dGHEE,dGHI,dGHA,dRU,dRO,dRE,dREE,dRI,dRA,dWU,",
   "dWO,dWE,dWEE,dWI,dWA,dHWU,dHWO,dHWE,dHWEE,dHWI,dHWA,dTHU,dTHO,dTHE,dTHEE,dTHI,dTHA,dTTU,dTTO,",
   "dTTE,dTTEE,dTTI,dTTA,dPU,dPO,dPE,dPEE,dPI,dPA,dP,dGU,dGO,dGE,dGEE,dGI,dGA,dKHU,dKHO,dKHE,",
   "dKHEE,dKHI,dKHA,dKKU,dKKO,dKKE,dKKEE,dKKI,dKKA,dKK,dNU,dNO,dNE,dNEE,dNI,dNA,dMU,dMO,dME,dMEE,",
   "dMI,dMA,dYU,dYO,dYE,dYEE,dYI,dYA,dJU,cbSAYISI ,cCARRIER JO,dJE,dJEE,dJI,cbSAYISI ,cCARRIER JA,",
   "dJJU,dJJO,dJJE,dJJEE,dJJI,dJJA,dLU,dLO,dLE,dLEE,dLI,dLA,dDLU,dDLO,dDLE,dDLEE,dDLI,dDLA,dLHU,",
   "dLHO,dLHE,dLHEE,dLHI,dLHA,dTLHU,dTLHO,dTLHE,dTLHEE,dTLHI,dTLHA,dTLU,dTLO,dTLE,dTLEE,dTLI,dTLA,",
   "dZU,dZO,dZE,dZEE,dZI,dZA,dZ,dbINITIAL ,dDZU,dDZO,dDZE,dDZEE,dDZI,dDZA,dSU,dSO,dSE,dSEE,dSI,",
   "dSA,dSHU,dSHO,dSHE,dSHEE,dSHI,dSHA,dSH,dTSU,dTSO,dTSE,dTSEE,dTSI,dTSA,dCHU,dCHO,dCHE,dCHEE,",
   "dCHI,dCHA,dTTSU,dTTSO,dTTSE,dTTSEE,dTTSI,dTTSA,cCHI SIGN,cFULL STOP,cQAI,cNGAI,cNNGI,cNNGII,",
   "cNNGO,cNNGOO,cNNGA,cNNGAA,cWOODS-CREE THWEE,eTHWI,eTHWII,eTHWO,eTHWOO,eTHWA,eTHWAA,eFINAL TH,",
   "cBLACKFOOT W,aOGHAM SPACE MARK,bLETTER BEITH,cLUIS,cFEARN,cSAIL,cNION,cUATH,cDAIR,cTINNE,",
   "cCOLL,cCEIRT,cMUIN,cGORT,cNGEADAL,cSTRAIF,cRUIS,cAILM,cONN,cUR,cEADHADH,cIODHADH,cEABHADH,cOR,",
   "cUILLEANN,cIFIN,cEAMHANCHOLL,cPEITH,bFEATHER MARK,bcREVERSED ,4aRUNIC LETTER FEHU FEOH FE F,",
   "cV,cURUZ UR U,cYR,cY,cW,cTHURISAZ THURS THORN,cETH,cANSUZ A,cOS O,cAC A,cAESC,",
   "cLONG-BRANCH-OSS O,ccSHORT-TWIG-,cb,cOE,cON,cRAIDO RAD REID R,cKAUNA,cCEN,cKAUN K,cG,cENG,",
   "cGEBO GYFU G,cGAR,cWUNJO WYNN W,cHAGLAZ H,cbHAEGL ,cbLONG-BRANCH-HAGALL ,ccSHORT-TWIG-,",
   "cNAUDIZ NYD NAUD N,ccSHORT-TWIG-,cbDOTTED-,cISAZ IS ISS I,cE,cJERAN J,cGER,cLONG-BRANCH-AR AE,",
   "cSHORT-TWIG-AR A,cIWAZ EOH,cPERTHO PEORTH P,cALGIZ EOLHX,cSOWILO S,cbSIGEL LONG-BRANCH-SOL ,",
   "ccSHORT-TWIG-,cC,cZ,cTIWAZ TIR TYR T,ccSHORT-TWIG-,cD,cBERKANAN BEORC BJARKAN B,ccSHORT-TWIG-,",
   "cDOTTED-P,cbOPEN-,cEHWAZ EH E,cMANNAZ MAN M,cbLONG-BRANCH-MADR ,ccSHORT-TWIG-,",
   "cLAUKAZ LAGU LOGR L,cbDOTTED-,cINGWAZ,cING,cDAGAZ DAEG D,cOTHALAN ETHEL O,cEAR,cIOR,cCWEORTH,",
   "cCALC,cCEALC,cSTAN,cLONG-BRANCH-YR,cbSHORT-TWIG-,cbICELANDIC-,cQ,cX,bSINGLE PUNCTUATION,",
   "bbMULTIPLE ,bbCROSS ,bARLAUG SYMBOL,bbTVIMADUR ,bbBELGTHOR ,bLETTER K,cSH,cOO,",
   "cFRANKS CASKET OS,eIS,eEH,eAC,eAESC,8aTAGALOG LETTER A,cI,cU,cKA,cGA,cNGA,cTA,cDA,cNA,cPA,cBA,",
   "cMA,cYA,cRA,cLA,cWA,cSA,cHA,bVOWEL SIGN I,dU,bSIGN VIRAMA,cPAMUDPOD,AbLETTER ARCHAIC RA,",
   "aHANUNOO LETTER A,cI,cU,cKA,cGA,cNGA,cTA,cDA,cNA,cPA,cBA,cMA,cYA,cRA,cLA,cWA,cSA,cHA,",
   "bVOWEL SIGN I,dU,bSIGN PAMUDPOD,aPHILIPPINE SINGLE PUNCTUATION,bbDOUBLE ,AaBUHID LETTER A,cI,",
   "cU,cKA,cGA,cNGA,cTA,cDA,cNA,cPA,cBA,cMA,cYA,cRA,cLA,cWA,cSA,cHA,bVOWEL SIGN I,dU,",
   "DaTAGBANWA LETTER A,cI,cU,cKA,cGA,cNGA,cTA,cDA,cNA,cPA,cBA,cMA,cYA,2cLA,cWA,cSA,",
   "2bVOWEL SIGN I,dU,DaKHMER LETTER KA,cKHA,cKO,cKHO,cNGO,cCA,cCHA,cCO,cCHO,cNYO,cDA,cTTHA,cDO,",
   "cTTHO,cNNO,cTA,cTHA,cTO,cTHO,cNO,cBA,cPHA,cPO,cPHO,cMO,cYO,cRO,cLO,cVO,cSHA,cSSO,cSA,cHA,cLA,",
   "cQA,bINDEPENDENT VOWEL QAQ,dQAA,dQI,dQII,dQU,dQUK,dQUU,dQUUV,dRY,dRYY,dLY,dLYY,dQE,dQAI,",
   "dQOO TYPE ONE,fTWO,dQAU,bVOWEL INHERENT AQ,dAA,cbSIGN ,dI,dII,dY,dYY,dU,dUU,dUA,dOE,dYA,dIE,",
   "dE,dAE,dAI,dOO,dAU,bSIGN NIKAHIT,cREAHMUK,cYUUKALEAPINTU,cMUUSIKATOAN,cTRIISAP,cBANTOC,cROBAT,",
   "cTOANDAKHIAT,cKAKABAT,cAHSDA,cSAMYOK SANNYA,cVIRIAM,cCOENG,cBATHAMASAT,cKHAN,cBARIYOOSAN,",
   "cCAMNUC PII KUUH,cLEK TOO,cBEYYAL,cPHNAEK MUAN,cKOOMUUT,bCURRENCY SYMBOL RIEL,",
   "bSIGN AVAKRAHASANYA,cATTHACAN,3bDIGIT ZERO,cONE,cTWO,cTHREE,cFOUR,cFIVE,cSIX,cSEVEN,cEIGHT,",
   "cNINE,7bSYMBOL LEK ATTAK SON,eMUOY,ePII,eBEI,eBUON,ePRAM,ePRAM-MUOY,fPII,fBEI,fBUON,",
   "7aMONGOLIAN BIRGA,bELLIPSIS,bCOMMA,bFULL STOP,bCOLON,bFOUR DOTS,bTODO SOFT HYPHEN,",
   "bSIBE SYLLABLE BOUNDARY MARKER,bMANCHU COMMA,cFULL STOP,bNIRUGU,bFREE VARIATION SELECTOR ONE,",
   "0aFVS1,aMONGOLIAN FREE VARIATION SELECTOR TWO,0aFVS2,aMONGOLIAN FREE VARIATION SELECTOR THREE,",
   "0aFVS3,aMONGOLIAN VOWEL SEPARATOR,0aMVS,aMONGOLIAN FREE VARIATION SELECTOR FOUR,0aFVS4,",
   "aMONGOLIAN DIGIT ZERO,cONE,cTWO,cTHREE,cFOUR,cFIVE,cSIX,cSEVEN,cEIGHT,cNINE,7bLETTER A,cE,cI,",
   "cO,cU,cOE,cUE,cEE,cNA,cANG,cBA,cPA,cQA,cGA,cMA,cLA,cSA,cSHA,cTA,cDA,cCHA,cJA,cYA,cRA,cWA,cFA,",
   "cKA,cKHA,cTSA,cZA,cHAA,cZRA,cLHA,cZHI,cCHI,cTODO LONG VOWEL SIGN,dE,dI,dO,dU,dOE,dUE,dANG,dBA,",
   "dPA,dQA,dGA,dMA,dTA,dDA,dCHA,dJA,dTSA,dYA,dWA,dKA,dGAA,dHAA,dJIA,dNIA,dDZA,cSIBE E,dI,dIY,dUE,",
   "dU,dANG,dKA,dGA,dHA,dPA,dSHA,dTA,dDA,dJA,dFA,dGAA,dHAA,dTSA,dZA,dRAA,dCHA,dZHA,cMANCHU I,dKA,",
   "dRA,dFA,dZHA,cCHA WITH TWO DOTS,8cALI GALI ANUSVARA ONE,ebVISARGA ,eDAMARU,eUBADAMA,",
   "ebINVERTED ,eBALUDA,ebTHREE ,eA,eI,eKA,eNGA,eCA,eTTA,eTTHA,eDDA,eNNA,eTA,eDA,ePA,ePHA,eSSA,",
   "eZHA,eZA,eAH,cTODO ALI GALI TA,fZHA,cMANCHU ALI GALI GHA,fNGA,fCA,fJHA,fTTA,fDDHA,fTA,fDHA,",
   "fSSA,fCYA,fZHA,fZA,cALI GALI HALF U,fYA,cMANCHU ALI GALI BHA,cALI GALI DAGALGA,",
   "cMANCHU ALI GALI LHA,6aCANADIAN SYLLABICS OY,cAY,cAAY,cWAY,cPOY,cPAY,cPWOY,cTAY,cKAY,cKWAY,",
   "cMAY,cNOY,cNAY,cLAY,cSOY,cSAY,cSHOY,cSHAY,cSHWOY,cYOY,cYAY,cRAY,cNWI,cbOJIBWAY ,cNWII,",
   "cbOJIBWAY ,cNWO,cbOJIBWAY ,cNWOO,cbOJIBWAY ,cRWEE,cRWI,cRWII,cRWO,cRWOO,cRWA,cOJIBWAY P,dT,dK,",
   "dC,dM,dN,dS,dSH,cEASTERN W,cbWESTERN ,cFINAL SMALL RING,dRAISED DOT,cR-CREE RWE,",
   "cWEST-CREE LOO,eLAA,cTHWE,cTHWA,cTTHWE,cTTHOO,cTTHAA,cTLHWE,cTLHOO,cSAYISI SHWE,dSHOO,dHOO,",
   "cCARRIER GWU,dDENE GEE,dGAA,dGWA,cSAYISI JUU,cCARRIER JWA,cBEAVER DENE L,eR,cCARRIER DENTAL S,",
   "BaLIMBU VOWEL-CARRIER LETTER,bLETTER KA,cKHA,cGA,cGHA,cNGA,cCA,cCHA,cJA,cJHA,cYAN,cTA,cTHA,",
   "cDA,cDHA,cNA,cPA,cPHA,cBA,cBHA,cMA,cYA,cRA,cLA,cWA,cSHA,cSSA,cSA,cHA,cGYAN,cTRA,",
   "2bVOWEL SIGN A,dI,dU,dEE,dAI,dOO,dAU,dE,dO,bSUBJOINED LETTER YA,dRA,dWA,5bSMALL LETTER KA,",
   "dNGA,dANUSVARA,dTA,dNA,dPA,dMA,dRA,dLA,bSIGN MUKPHRENG,cKEMPHRENG,cSA-I,5cLOO,",
   "4bEXCLAMATION MARK,bbQUESTION ,bDIGIT ZERO,cONE,cTWO,cTHREE,cFOUR,cFIVE,cSIX,cSEVEN,cEIGHT,",
   "cNINE,aTAI LE LETTER KA,dXA,dNGA,dTSA,dSA,dYA,dTA,dTHA,dLA,dPA,dPHA,dMA,dFA,dVA,dHA,dQA,dKHA,",
   "dTSHA,dNA,dA,dI,dEE,dEH,dU,dOO,dO,dUE,dE,dAUE,dAI,3dTONE-2,e3,e4,e5,e6,",
   "CaNEW TAI LUE LETTER HIGH QA,ebLOW ,eHIGH KA,fXA,fNGA,eLOW KA,fXA,fNGA,eHIGH TSA,fSA,fYA,",
   "eLOW TSA,fSA,fYA,eHIGH TA,fTHA,fNA,eLOW TA,fTHA,fNA,eHIGH PA,fPHA,fMA,eLOW PA,fPHA,fMA,",
   "eHIGH FA,fVA,fLA,eLOW FA,fVA,fLA,eHIGH HA,fDA,fBA,eLOW HA,fDA,fBA,eHIGH KVA,fXVA,eLOW KVA,",
   "fXVA,eHIGH SUA,ebLOW ,5dVOWEL SIGN VOWEL SHORTENER,fAA,fII,fU,fUU,fE,fAE,fO,fOA,fUE,fAY,fAAY,",
   "fUY,fOY,fOAY,fUEY,fIY,dLETTER FINAL V,fNG,fN,fM,fK,fD,fB,dTONE MARK-1,f2,7dDIGIT ZERO,eONE,",
   "eTWO,eTHREE,eFOUR,eFIVE,eSIX,eSEVEN,eEIGHT,eNINE,dTHAM DIGIT ONE,4dSIGN LAE,eLAEV,",
   "aKHMER SYMBOL PATHAMASAT,cMUOY KOET,cbPII ,cbBEI ,cbBUON ,cbPRAM ,cbPRAM-MUOY ,dbPII ,dbBEI ,",
   "dbBUON ,cbDAP ,cbDAP-MUOY ,dbPII ,dbBEI ,dbBUON ,dbPRAM ,cTUTEYASAT,cMUOY ROC,cbPII ,cbBEI ,",
   "cbBUON ,cbPRAM ,cbPRAM-MUOY ,dbPII ,dbBEI ,dbBUON ,cbDAP ,cbDAP-MUOY ,dbPII ,dbBEI ,dbBUON ,",
   "dbPRAM ,aBUGINESE LETTER KA,cGA,cNGA,cNGKA,cPA,cBA,cMA,cMPA,cTA,cDA,cNA,cNRA,cCA,cJA,cNYA,",
   "cNYCA,cYA,cRA,cLA,cVA,cSA,cA,cHA,bVOWEL SIGN I,dU,dE,dO,dAE,3bPALLAWA,bEND OF SECTION,",
   "aTAI THAM LETTER HIGH KA,eKHA,eKXA,dLOW KA,eKXA,eKHA,dNGA,dHIGH CA,eCHA,dLOW CA,eSA,eCHA,dNYA,",
   "dRATA,dHIGH RATHA,dDA,dLOW RATHA,dRANA,dHIGH TA,eTHA,dLOW TA,eTHA,dNA,dBA,dHIGH PA,ePHA,eFA,",
   "dLOW PA,eFA,ePHA,dMA,dLOW YA,dbHIGH ,dRA,dRUE,dLA,dLUE,dWA,dHIGH SHA,eSSA,eSA,eHA,dLLA,dA,",
   "dLOW HA,dI,dII,dU,dUU,dEE,dOO,dLAE,dGREAT SA,cCONSONANT SIGN MEDIAL RA,fLA,eLA TANG LAI,",
   "cbSIGN MAI KANG ,cCONSONANT SIGN FINAL NGA,eLOW PA,ecHIGH RATHA OR ,eMA,eBA,eSA,2cSIGN SAKOT,",
   "cVOWEL SIGN A,eMAI SAT,eAA,ebTALL ,eI,eII,eUE,eUUE,eU,eUU,eO,eOA BELOW,eOY,eE,eAE,eOO,eAI,",
   "ebTHAM ,eOA ABOVE,cSIGN MAI KANG,dTONE-1,e2,dKHUEN TONE-3,f4,f5,dRA HAAM,dMAI SAM,",
   "dKHUEN-LUE KARAN,3cCOMBINING CRYPTOGRAMMIC DOT,cHORA DIGIT ZERO,eONE,eTWO,eTHREE,eFOUR,eFIVE,",
   "eSIX,eSEVEN,eEIGHT,eNINE,7cTHAM DIGIT ZERO,eONE,eTWO,eTHREE,eFOUR,eFIVE,eSIX,eSEVEN,eEIGHT,",
   "eNINE,7cSIGN WIANG,dWIANGWAAK,dSAWAN,dKEOW,dHOY,dDOKMAI,dREVERSED ROTATED RANA,dMAI YAMOK,",
   "dKAAN,dKAANKUU,dSATKAAN,dSATKAANKUU,dHANG,dCAANG,3aCOMBINING DOUBLED CIRCUMFLEX ACCENT,",
   "bDIAERESIS-RING,bINFINITY,bDOWNWARDS ARROW,bTRIPLE DOT,bX-X BELOW,bbWIGGLY LINE ,bbOPEN MARK ,",
   "bdDOUBLE ,bbLIGHT CENTRALIZATION STROKE ,bdSTRONG ,bPARENTHESES ABOVE,bcDOUBLE ,",
   "bPARENTHESES BELOW,cOVERLAY,bLATIN SMALL LETTER W BELOW,ecTURNED ,",
   "bLEFT PARENTHESIS ABOVE LEFT,bRIGHT PARENTHESIS ABOVE RIGHT,bLEFT PARENTHESIS BELOW LEFT,",
   "bRIGHT PARENTHESIS BELOW RIGHT,bSQUARE BRACKETS ABOVE,bbNUMBER SIGN ,bbINVERTED DOUBLE ARCH ,",
   "bbPLUS SIGN ,bdDOUBLE ,eBELOW,bTRIPLE ACUTE ACCENT,bLATIN SMALL LETTER INSULAR G,fR,fT,",
   "32aBALINESE SIGN ULU RICEM,dCANDRA,cCECEK,cSURANG,cBISAH,bLETTER AKARA,cAKARA TEDUNG,cIKARA,",
   "cIKARA TEDUNG,cUKARA,cUKARA TEDUNG,cRA REPA,dREPA TEDUNG,cLA LENGA,dLENGA TEDUNG,cEKARA,",
   "cAIKARA,cOKARA,cOKARA TEDUNG,cKA,cKA MAHAPRANA,cGA,cGA GORA,cNGA,cCA,cCA LACA,cJA,cJA JERA,",
   "cNYA,cTA LATIK,dMURDA MAHAPRANA,cDA MURDA ALPAPRANA,eMAHAPRANA,cNA RAMBAT,cTA,cTA TAWA,cDA,",
   "cDA MADU,cNA,cPA,cPA KAPAL,cBA,cBA KEMBANG,cMA,cYA,cRA,cLA,cWA,cSA SAGA,dSAPA,cSA,cHA,",
   "bSIGN REREKAN,bVOWEL SIGN TEDUNG,dULU,dULU SARI,dSUKU,dSUKU ILUT,dRA REPA,eREPA TEDUNG,",
   "dLA LENGA,eLENGA TEDUNG,dTALING,dTALING REPA,eTEDUNG,ebREPA ,dPEPET,dPEPET TEDUNG,bADEG ADEG,",
   "bLETTER KAF SASAK,cbKHOT ,cbTZIR ,cbEF ,cbVE ,cbZAL ,cbASYURA ,cARCHAIC JNYA,4bDIGIT ZERO,",
   "cONE,cTWO,cTHREE,cFOUR,cFIVE,cSIX,cSEVEN,cEIGHT,cNINE,bPANTI,bPAMADA,bWINDU,bCARIK PAMUNGKAH,",
   "cSIKI,cPAREREN,bPAMENENG,bMUSICAL SYMBOL DONG,dDENG,dDUNG,dDANG,dDANG SURANG,dDING,dDAENG,",
   "dDEUNG,dDAING,dDANG GEDE,dCOMBINING TEGEH,eENDEP,eKEMPUL,eKEMPLI,eJEGOGAN,ebKEMPUL WITH ,",
   "ecKEMPLI ,eBENDE,eGONG,dRIGHT-HAND OPEN DUG,gDAG,fCLOSED TUK,gTAK,dLEFT-HAND OPEN PANG,gPUNG,",
   "fCLOSED PLAK,gPLUK,fOPEN PING,bPANTI LANTANG,bbPAMADA ,2aSUNDANESE SIGN PANYECEK,cPANGLAYAR,",
   "cPANGWISAD,bLETTER A,cI,cU,cAE,cO,cE,cEU,cKA,cQA,cGA,cNGA,cCA,cJA,cZA,cNYA,cTA,cDA,cNA,cPA,",
   "cFA,cVA,cBA,cMA,cYA,cRA,cLA,cWA,cSA,cXA,cHA,bCONSONANT SIGN PAMINGKAL,dPANYAKRA,dPANYIKU,",
   "bVOWEL SIGN PANGHULU,dPANYUKU,dPANAELAENG,dPANOLONG,dPAMEPET,dPANEULEUNG,bSIGN PAMAAEH,",
   "cVIRAMA,bCONSONANT SIGN PASANGAN MA,eWA,bLETTER KHA,cSYA,bDIGIT ZERO,cONE,cTWO,cTHREE,cFOUR,",
   "cFIVE,cSIX,cSEVEN,cEIGHT,cNINE,bAVAGRAHA,bLETTER REU,cLEU,cBHA,cFINAL K,dM,aBATAK LETTER A,",
   "cbSIMALUNGUN ,cHA,cbSIMALUNGUN ,cbMANDAILING ,cBA,cbKARO ,cPA,cbSIMALUNGUN ,cNA,cbMANDAILING ,",
   "cWA,cbSIMALUNGUN ,cbPAKPAK ,cGA,cbSIMALUNGUN ,cJA,cDA,cRA,cbSIMALUNGUN ,cMA,cbSIMALUNGUN ,",
   "cSOUTHERN TA,cbNORTHERN ,cSA,cbSIMALUNGUN ,cbMANDAILING ,cYA,cbSIMALUNGUN ,cNGA,cLA,",
   "cbSIMALUNGUN ,cNYA,cCA,cNDA,cMBA,cI,cU,bSIGN TOMPI,bVOWEL SIGN E,dbPAKPAK ,dEE,dI,dbKARO ,dO,",
   "dbKARO ,dU,dU FOR SIMALUNGUN SA,bCONSONANT SIGN NG,dH,bPANGOLAT,bPANONGONAN,",
   "9bSYMBOL BINDU NA METEK,dPINARBORAS,dJUDUL,dPANGOLAT,aLEPCHA LETTER KA,cKLA,cKHA,cGA,cGLA,",
   "cNGA,cCA,cCHA,cJA,cNYA,cTA,cTHA,cDA,cNA,cPA,cPLA,cPHA,cFA,cFLA,cBA,cBLA,cMA,cMLA,cTSA,cTSHA,",
   "cDZA,cYA,cRA,cLA,cHA,cHLA,cVA,cSA,cSHA,cWA,cA,bSUBJOINED LETTER YA,dRA,bVOWEL SIGN AA,dI,dO,",
   "dOO,dU,dUU,dE,bCONSONANT SIGN K,dM,dL,dN,dP,dR,dT,dNYIN-DO,dKANG,bSIGN RAN,cNUKTA,",
   "4bPUNCTUATION TA-ROL,ccNYET THYOOM ,cCER-WA,ccTSHOOK ,cTSHOOK,bDIGIT ZERO,cONE,cTWO,cTHREE,",
   "cFOUR,cFIVE,cSIX,cSEVEN,cEIGHT,cNINE,4bLETTER TTA,cTTHA,cDDA,aOL CHIKI DIGIT ZERO,dONE,dTWO,",
   "dTHREE,dFOUR,dFIVE,dSIX,dSEVEN,dEIGHT,dNINE,cLETTER LA,dAT,dAG,dANG,dAL,dLAA,dAAK,dAAJ,dAAM,",
   "dAAW,dLI,dIS,dIH,dINY,dIR,dLU,dUC,dUD,dUNN,dUY,dLE,dEP,dEDD,dEN,dERR,dLO,dOTT,dOB,dOV,dOH,",
   "cMU TTUDDAG,cGAAHLAA TTUDDAAG,ccMU-,cRELAA,cPHAARKAA,cAHAD,cPUNCTUATION MUCAAD,dbDOUBLE ,",
   "aCYRILLIC SMALL LETTER ROUNDED VE,dLONG-LEGGED DE,dNARROW O,dWIDE ES,dTALL TE,dbTHREE-LEGGED ,",
   "dTALL HARD SIGN,eYAT,dUNBLENDED UK,8aGEORGIAN MTAVRULI CAPITAL LETTER AN,eBAN,eGAN,eDON,eEN,",
   "eVIN,eZEN,eTAN,eIN,eKAN,eLAS,eMAN,eNAR,eON,ePAR,eZHAR,eRAE,eSAN,eTAR,eUN,ePHAR,eKHAR,eGHAN,",
   "eQAR,eSHIN,eCHIN,eCAN,eJIL,eCIL,eCHAR,eXAN,eJHAN,eHAE,eHE,eHIE,eWE,eHAR,eHOE,eFI,eYN,eELIFI,",
   "eTURNED GAN,eAIN,3eAEN,eHARD SIGN,ebLABIAL ,aSUNDANESE PUNCTUATION BINDU SURYA,dPANGLONG,",
   "dPURNAMA,dCAKRA,dLEU SATANGA,dbKA ,dbDA ,dbBA ,9aVEDIC TONE KARSHANA,cSHARA,cPRENKHA,",
   "bSIGN NIHSHVASA,cYAJURVEDIC MIDLINE SVARITA,bbTONE YAJURVEDIC AGGRAVATED INDEPENDENT ,dc,",
   "dcKATHAKA ,cCANDRA BELOW,cYAJURVEDIC KATHAKA INDEPENDENT SVARITA SCHROEDER,cDOUBLE SVARITA,",
   "cbTRIPLE ,cKATHAKA ANUDATTA,cDOT BELOW,cbTWO DOTS ,ccTHREE ,",
   "cRIGVEDIC KASHMIRI INDEPENDENT SVARITA,ccATHARVAVEDIC ,bbSIGN VISARGA ,dUDATTA,ccREVERSED ,",
   "cVISARGA ANUDATTA,ccREVERSED ,cVISARGA UDATTA WITH TAIL,dcANUDATTA ,cANUSVARA ANTARGOMUKHA,",
   "dBAHIRGOMUKHA,dVAMAGOMUKHA,dVAMAGOMUKHA WITH TAIL,cTIRYAK,cHEXIFORM LONG ANUSVARA,cc,",
   "ccRTHANG ,cANUSVARA UBHAYATO MUKHA,cARDHAVISARGA,cbROTATED ,bTONE CANDRA ABOVE,",
   "bSIGN JIHVAMULIYA,cUPADHMANIYA,cATIKRAMA,bTONE RING ABOVE,ccDOUBLE ,",
   "bSIGN DOUBLE ANUSVARA ANTARGOMUKHA,6aLATIN LETTER SMALL CAPITAL A,eAE,bbSMALL LETTER TURNED ,",
   "bLETTER SMALL CAPITAL BARRED B,eC,eD,eETH,eE,bbSMALL LETTER TURNED OPEN ,eI,",
   "bLETTER SMALL CAPITAL J,eK,eL WITH STROKE,eM,eREVERSED N,eO,ebOPEN ,bbSMALL LETTER SIDEWAYS ,",
   "ebOPEN ,eO WITH STROKE,dTURNED OE,bLETTER SMALL CAPITAL OU,bSMALL LETTER TOP HALF O,dcBOTTOM ,",
   "bLETTER SMALL CAPITAL P,eREVERSED R,ebTURNED ,eT,eU,bbSMALL LETTER SIDEWAYS ,ebDIAERESIZED ,",
   "eTURNED M,bLETTER SMALL CAPITAL V,eW,eZ,eEZH,cVOICED LARYNGEAL SPIRANT,cAIN,",
   "aGREEK LETTER SMALL CAPITAL GAMMA,eLAMDA,ePI,eRHO,ePSI,aCYRILLIC LETTER SMALL CAPITAL EL,",
   "aMODIFIER LETTER CAPITAL A,dAE,dB,dbBARRED ,dD,dE,dbREVERSED ,dG,dH,dI,dJ,dK,dL,dM,dN,",
   "dbREVERSED ,dO,dOU,dP,dR,dT,dU,dW,cSMALL A,dbTURNED ,dALPHA,dTURNED AE,dB,dD,dE,dSCHWA,",
   "dOPEN E,dcTURNED ,dG,dTURNED I,dK,dM,dENG,dO,dbOPEN ,dbTOP HALF ,dcBOTTOM ,dP,dT,dU,",
   "dbSIDEWAYS ,dTURNED M,dV,dAIN,dBETA,dGREEK GAMMA,dDELTA,dGREEK PHI,dCHI,",
   "aLATIN SUBSCRIPT SMALL LETTER I,eR,eU,eV,aGREEK SUBSCRIPT SMALL LETTER BETA,eGAMMA,eRHO,ePHI,",
   "eCHI,aLATIN SMALL LETTER UE,dB WITH MIDDLE TILDE,ddD ,ddF ,ddM ,ddN ,ddP ,ddR ,",
   "fcFISHHOOK AND ,dcS WITH ,ddT ,ddZ ,dTURNED G,aMODIFIER LETTER CYRILLIC EN,",
   "aLATIN SMALL LETTER INSULAR G,dTH WITH STRIKETHROUGH,cCAPITAL LETTER I WITH STROKE,",
   "ccLETTER IOTA ,dcP ,ccCAPITAL LETTER U ,ccLETTER UPSILON ,dB WITH PALATAL HOOK,ddD ,ddF ,ddG ,",
   "ddK ,ddL ,ddM ,ddN ,ddP ,ddR ,ddS ,ddESH ,ddV ,ddX ,ddZ ,dbA WITH RETROFLEX ,ddALPHA ,",
   "dD WITH HOOK AND TAIL,dE WITH RETROFLEX HOOK,deOPEN ,dfREVERSED ,ddSCHWA ,ddI ,ddOPEN O ,",
   "ddESH ,ddU ,ddEZH ,aMODIFIER LETTER SMALL TURNED ALPHA,dC,dC WITH CURL,dETH,dREVERSED OPEN E,",
   "dF,dDOTLESS J WITH STROKE,dSCRIPT G,dTURNED H,dI WITH STROKE,dIOTA,dCAPITAL I,eI WITH STROKE,",
   "dJ WITH CROSSED-TAIL,dL WITH RETROFLEX HOOK,fbPALATAL ,dCAPITAL L,dM WITH HOOK,",
   "dTURNED M WITH LONG LEG,dN WITH LEFT HOOK,fbRETROFLEX ,dCAPITAL N,dBARRED O,dPHI,dS WITH HOOK,",
   "dESH,dT WITH PALATAL HOOK,dU BAR,dUPSILON,dCAPITAL U,dV WITH HOOK,dTURNED V,dZ,",
   "dZ WITH RETROFLEX HOOK,fCURL,dEZH,dTHETA,aCOMBINING DOTTED GRAVE ACCENT,cbACUTE ,bSNAKE BELOW,",
   "bSUSPENSION MARK,bMACRON-ACUTE,bGRAVE-MACRON,bMACRON-GRAVE,bACUTE-MACRON,bGRAVE-ACUTE-GRAVE,",
   "bACUTE-GRAVE-ACUTE,bLATIN SMALL LETTER R BELOW,bBREVE-MACRON,bMACRON-BREVE,",
   "bDOUBLE CIRCUMFLEX ABOVE,bbOGONEK ,bZIGZAG BELOW,bbIS ,bUR ABOVE,bbUS ,",
   "bbLATIN SMALL LETTER FLATTENED OPEN A ,eAE,eAO,eAV,eC CEDILLA,eINSULAR D,eETH,eG,",
   "cbLETTER SMALL CAPITAL ,cSMALL LETTER K,eL,cbLETTER SMALL CAPITAL ,fM,cSMALL LETTER N,",
   "cbLETTER SMALL CAPITAL ,fR,cSMALL LETTER R ROTUNDA,eS,ebLONG ,eZ,eALPHA,eB,eBETA,eSCHWA,eF,",
   "eL WITH DOUBLE MIDDLE TILDE,eO WITH LIGHT CENTRALIZATION STROKE,eP,eESH,",
   "eU WITH LIGHT CENTRALIZATION STROKE,eW,eA WITH DIAERESIS,ecO ,ecU ,bUP TACK ABOVE,",
   "bKAVYKA ABOVE RIGHT,dLEFT,bcDOT ,bWIDE INVERTED BRIDGE BELOW,bDOT BELOW LEFT,bDELETION MARK,",
   "bDOUBLE INVERTED BREVE BELOW,bbALMOST EQUAL TO ,bLEFT ARROWHEAD ABOVE,",
   "bRIGHT ARROWHEAD AND DOWN ARROWHEAD BELOW,abLATIN CAPITAL LETTER A WITH RING ,bfSMALL ,",
   "bCAPITAL LETTER B WITH DOT ABOVE,bfSMALL ,bCAPITAL LETTER B WITH DOT BELOW,bfSMALL ,",
   "bbCAPITAL LETTER B WITH LINE ,bfSMALL ,bCAPITAL LETTER C WITH CEDILLA AND ACUTE,bgSMALL ,",
   "bCAPITAL LETTER D WITH DOT ABOVE,bfSMALL ,bCAPITAL LETTER D WITH DOT BELOW,bfSMALL ,",
   "bbCAPITAL LETTER D WITH LINE ,bfSMALL ,bCAPITAL LETTER D WITH CEDILLA,beSMALL ,",
   "bCAPITAL LETTER D WITH CIRCUMFLEX BELOW,bfSMALL ,bCAPITAL LETTER E WITH MACRON AND GRAVE,",
   "bgSMALL ,bCAPITAL LETTER E WITH MACRON AND ACUTE,bgSMALL ,",
   "bCAPITAL LETTER E WITH CIRCUMFLEX BELOW,bfSMALL ,bbCAPITAL LETTER E WITH TILDE ,bfSMALL ,",
   "bCAPITAL LETTER E WITH CEDILLA AND BREVE,bgSMALL ,bCAPITAL LETTER F WITH DOT ABOVE,bfSMALL ,",
   "bCAPITAL LETTER G WITH MACRON,beSMALL ,bCAPITAL LETTER H WITH DOT ABOVE,bfSMALL ,",
   "bCAPITAL LETTER H WITH DOT BELOW,bfSMALL ,bCAPITAL LETTER H WITH DIAERESIS,beSMALL ,",
   "bCAPITAL LETTER H WITH CEDILLA,beSMALL ,bCAPITAL LETTER H WITH BREVE BELOW,bfSMALL ,",
   "bbCAPITAL LETTER I WITH TILDE ,bfSMALL ,bCAPITAL LETTER I WITH DIAERESIS AND ACUTE,bgSMALL ,",
   "bbCAPITAL LETTER K WITH ,beSMALL ,bCAPITAL LETTER K WITH DOT BELOW,bfSMALL ,",
   "bbCAPITAL LETTER K WITH LINE ,bfSMALL ,bbCAPITAL LETTER L WITH DOT ,bfSMALL ,",
   "bCAPITAL LETTER L WITH DOT BELOW AND MACRON,bhSMALL ,bCAPITAL LETTER L WITH LINE BELOW,",
   "bfSMALL ,bbCAPITAL LETTER L WITH CIRCUMFLEX ,bfSMALL ,bCAPITAL LETTER M WITH ACUTE,beSMALL ,",
   "bCAPITAL LETTER M WITH DOT ABOVE,bfSMALL ,bCAPITAL LETTER M WITH DOT BELOW,bfSMALL ,",
   "bCAPITAL LETTER N WITH DOT ABOVE,bfSMALL ,bCAPITAL LETTER N WITH DOT BELOW,bfSMALL ,",
   "bbCAPITAL LETTER N WITH LINE ,bfSMALL ,bbCAPITAL LETTER N WITH CIRCUMFLEX ,bfSMALL ,",
   "bCAPITAL LETTER O WITH TILDE AND ACUTE,bgSMALL ,bCAPITAL LETTER O WITH TILDE AND DIAERESIS,",
   "bgSMALL ,bCAPITAL LETTER O WITH MACRON AND GRAVE,bgSMALL ,",
   "bCAPITAL LETTER O WITH MACRON AND ACUTE,bgSMALL ,bbCAPITAL LETTER P WITH ,beSMALL ,",
   "bCAPITAL LETTER P WITH DOT ABOVE,bfSMALL ,bdCAPITAL LETTER R ,bfSMALL ,",
   "bCAPITAL LETTER R WITH DOT BELOW,bfSMALL ,bCAPITAL LETTER R WITH DOT BELOW AND MACRON,",
   "bhSMALL ,bCAPITAL LETTER R WITH LINE BELOW,bfSMALL ,bCAPITAL LETTER S WITH DOT ABOVE,bfSMALL ,",
   "bCAPITAL LETTER S WITH DOT BELOW,bfSMALL ,bCAPITAL LETTER S WITH ACUTE AND DOT ABOVE,bhSMALL ,",
   "bdCAPITAL LETTER S WITH CARON ,bhSMALL ,bdCAPITAL LETTER S WITH DOT BELOW ,biSMALL ,",
   "bcCAPITAL LETTER T WITH ,bfSMALL ,bCAPITAL LETTER T WITH DOT BELOW,bfSMALL ,",
   "bbCAPITAL LETTER T WITH LINE ,bfSMALL ,bbCAPITAL LETTER T WITH CIRCUMFLEX ,bfSMALL ,",
   "bbCAPITAL LETTER U WITH DIAERESIS ,bfSMALL ,bbCAPITAL LETTER U WITH TILDE ,bfSMALL ,",
   "bbCAPITAL LETTER U WITH CIRCUMFLEX ,bfSMALL ,bCAPITAL LETTER U WITH TILDE AND ACUTE,bgSMALL ,",
   "bCAPITAL LETTER U WITH MACRON AND DIAERESIS,bgSMALL ,bCAPITAL LETTER V WITH TILDE,beSMALL ,",
   "bCAPITAL LETTER V WITH DOT BELOW,bfSMALL ,bCAPITAL LETTER W WITH GRAVE,beSMALL ,",
   "bCAPITAL LETTER W WITH ACUTE,beSMALL ,bCAPITAL LETTER W WITH DIAERESIS,beSMALL ,",
   "bCAPITAL LETTER W WITH DOT ABOVE,bfSMALL ,bCAPITAL LETTER W WITH DOT BELOW,bfSMALL ,",
   "bCAPITAL LETTER X WITH DOT ABOVE,bfSMALL ,bCAPITAL LETTER X WITH DIAERESIS,beSMALL ,",
   "bCAPITAL LETTER Y WITH DOT ABOVE,bfSMALL ,bCAPITAL LETTER Z WITH CIRCUMFLEX,beSMALL ,",
   "bCAPITAL LETTER Z WITH DOT BELOW,bfSMALL ,bbCAPITAL LETTER Z WITH LINE ,bfSMALL ,ddH ,",
   "dT WITH DIAERESIS,dW WITH RING ABOVE,ddY ,dA WITH RIGHT HALF RING,dLONG S WITH DOT ABOVE,",
   "gDIAGONAL STROKE,gbHIGH ,bCAPITAL LETTER SHARP S,bSMALL LETTER DELTA,",
   "bCAPITAL LETTER A WITH DOT BELOW,bfSMALL ,bCAPITAL LETTER A WITH HOOK ABOVE,bfSMALL ,",
   "bCAPITAL LETTER A WITH CIRCUMFLEX AND ACUTE,bgSMALL ,",
   "bCAPITAL LETTER A WITH CIRCUMFLEX AND GRAVE,bgSMALL ,",
   "bCAPITAL LETTER A WITH CIRCUMFLEX AND HOOK ABOVE,bhSMALL ,",
   "bCAPITAL LETTER A WITH CIRCUMFLEX AND TILDE,bgSMALL ,",
   "bCAPITAL LETTER A WITH CIRCUMFLEX AND DOT BELOW,bhSMALL ,",
   "bCAPITAL LETTER A WITH BREVE AND ACUTE,bgSMALL ,bCAPITAL LETTER A WITH BREVE AND GRAVE,",
   "bgSMALL ,bCAPITAL LETTER A WITH BREVE AND HOOK ABOVE,bhSMALL ,",
   "bCAPITAL LETTER A WITH BREVE AND TILDE,bgSMALL ,bCAPITAL LETTER A WITH BREVE AND DOT BELOW,",
   "bhSMALL ,bcCAPITAL LETTER E WITH ,bfSMALL ,bCAPITAL LETTER E WITH HOOK ABOVE,bfSMALL ,",
   "bCAPITAL LETTER E WITH TILDE,beSMALL ,bCAPITAL LETTER E WITH CIRCUMFLEX AND ACUTE,bgSMALL ,",
   "bCAPITAL LETTER E WITH CIRCUMFLEX AND GRAVE,bgSMALL ,",
   "bCAPITAL LETTER E WITH CIRCUMFLEX AND HOOK ABOVE,bhSMALL ,",
   "bCAPITAL LETTER E WITH CIRCUMFLEX AND TILDE,bgSMALL ,",
   "bCAPITAL LETTER E WITH CIRCUMFLEX AND DOT BELOW,bhSMALL ,bCAPITAL LETTER I WITH HOOK ABOVE,",
   "bfSMALL ,bCAPITAL LETTER I WITH DOT BELOW,bfSMALL ,bdCAPITAL LETTER O ,bfSMALL ,",
   "bCAPITAL LETTER O WITH HOOK ABOVE,bfSMALL ,bCAPITAL LETTER O WITH CIRCUMFLEX AND ACUTE,",
   "bgSMALL ,bCAPITAL LETTER O WITH CIRCUMFLEX AND GRAVE,bgSMALL ,",
   "bCAPITAL LETTER O WITH CIRCUMFLEX AND HOOK ABOVE,bhSMALL ,",
   "bCAPITAL LETTER O WITH CIRCUMFLEX AND TILDE,bgSMALL ,",
   "bCAPITAL LETTER O WITH CIRCUMFLEX AND DOT BELOW,bhSMALL ,",
   "bCAPITAL LETTER O WITH HORN AND ACUTE,bgSMALL ,bCAPITAL LETTER O WITH HORN AND GRAVE,bgSMALL ,",
   "bCAPITAL LETTER O WITH HORN AND HOOK ABOVE,bhSMALL ,bCAPITAL LETTER O WITH HORN AND TILDE,",
   "bgSMALL ,bCAPITAL LETTER O WITH HORN AND DOT BELOW,bhSMALL ,bcCAPITAL LETTER U WITH ,bfSMALL ,",
   "bCAPITAL LETTER U WITH HOOK ABOVE,bfSMALL ,bCAPITAL LETTER U WITH HORN AND ACUTE,bgSMALL ,",
   "bCAPITAL LETTER U WITH HORN AND GRAVE,bgSMALL ,bCAPITAL LETTER U WITH HORN AND HOOK ABOVE,",
   "bhSMALL ,bCAPITAL LETTER U WITH HORN AND TILDE,bgSMALL ,",
   "bCAPITAL LETTER U WITH HORN AND DOT BELOW,bhSMALL ,bCAPITAL LETTER Y WITH GRAVE,beSMALL ,",
   "bCAPITAL LETTER Y WITH DOT BELOW,bfSMALL ,bCAPITAL LETTER Y WITH HOOK ABOVE,bfSMALL ,",
   "bCAPITAL LETTER Y WITH TILDE,beSMALL ,bCAPITAL LETTER MIDDLE-WELSH LL,beSMALL ,",
   "bCAPITAL LETTER MIDDLE-WELSH V,beSMALL ,bCAPITAL LETTER Y WITH LOOP,beSMALL ,",
   "aGREEK SMALL LETTER ALPHA WITH PSILI,fDASIA,fPSILI AND VARIA,fcDASIA ,fPSILI AND OXIA,",
   "fcDASIA ,fPSILI AND PERISPOMENI,fcDASIA ,bCAPITAL LETTER ALPHA WITH PSILI,fDASIA,",
   "fPSILI AND VARIA,fcDASIA ,fPSILI AND OXIA,fcDASIA ,fPSILI AND PERISPOMENI,fcDASIA ,",
   "bSMALL LETTER EPSILON WITH PSILI,fDASIA,fPSILI AND VARIA,fcDASIA ,fPSILI AND OXIA,fcDASIA ,",
   "3bCAPITAL LETTER EPSILON WITH PSILI,fDASIA,fPSILI AND VARIA,fcDASIA ,fPSILI AND OXIA,fcDASIA ,",
   "3bSMALL LETTER ETA WITH PSILI,fDASIA,fPSILI AND VARIA,fcDASIA ,fPSILI AND OXIA,fcDASIA ,",
   "fPSILI AND PERISPOMENI,fcDASIA ,bCAPITAL LETTER ETA WITH PSILI,fDASIA,fPSILI AND VARIA,",
   "fcDASIA ,fPSILI AND OXIA,fcDASIA ,fPSILI AND PERISPOMENI,fcDASIA ,",
   "bSMALL LETTER IOTA WITH PSILI,fDASIA,fPSILI AND VARIA,fcDASIA ,fPSILI AND OXIA,fcDASIA ,",
   "fPSILI AND PERISPOMENI,fcDASIA ,bCAPITAL LETTER IOTA WITH PSILI,fDASIA,fPSILI AND VARIA,",
   "fcDASIA ,fPSILI AND OXIA,fcDASIA ,fPSILI AND PERISPOMENI,fcDASIA ,",
   "bSMALL LETTER OMICRON WITH PSILI,fDASIA,fPSILI AND VARIA,fcDASIA ,fPSILI AND OXIA,fcDASIA ,",
   "3bCAPITAL LETTER OMICRON WITH PSILI,fDASIA,fPSILI AND VARIA,fcDASIA ,fPSILI AND OXIA,fcDASIA ,",
   "3bSMALL LETTER UPSILON WITH PSILI,fDASIA,fPSILI AND VARIA,fcDASIA ,fPSILI AND OXIA,fcDASIA ,",
   "fPSILI AND PERISPOMENI,fcDASIA ,2bCAPITAL LETTER UPSILON WITH DASIA,2fDASIA AND VARIA,2hOXIA,",
   "2hPERISPOMENI,bSMALL LETTER OMEGA WITH PSILI,fDASIA,fPSILI AND VARIA,fcDASIA ,fPSILI AND OXIA,",
   "fcDASIA ,fPSILI AND PERISPOMENI,fcDASIA ,bCAPITAL LETTER OMEGA WITH PSILI,fDASIA,",
   "fPSILI AND VARIA,fcDASIA ,fPSILI AND OXIA,fcDASIA ,fPSILI AND PERISPOMENI,fcDASIA ,",
   "bSMALL LETTER ALPHA WITH VARIA,fOXIA,dEPSILON WITH VARIA,fOXIA,dETA WITH VARIA,fOXIA,",
   "dIOTA WITH VARIA,fOXIA,dOMICRON WITH VARIA,fOXIA,dUPSILON WITH VARIA,fOXIA,dOMEGA WITH VARIA,",
   "fOXIA,3dALPHA WITH PSILI AND YPOGEGRAMMENI,fcDASIA ,fcPSILI AND VARIA ,feDASIA ,",
   "fcPSILI AND OXIA ,feDASIA ,fcPSILI AND PERISPOMENI ,feDASIA ,",
   "bCAPITAL LETTER ALPHA WITH PSILI AND PROSGEGRAMMENI,fcDASIA ,fcPSILI AND VARIA ,feDASIA ,",
   "fcPSILI AND OXIA ,feDASIA ,fcPSILI AND PERISPOMENI ,feDASIA ,",
   "bSMALL LETTER ETA WITH PSILI AND YPOGEGRAMMENI,fcDASIA ,fcPSILI AND VARIA ,feDASIA ,",
   "fcPSILI AND OXIA ,feDASIA ,fcPSILI AND PERISPOMENI ,feDASIA ,",
   "bCAPITAL LETTER ETA WITH PSILI AND PROSGEGRAMMENI,fcDASIA ,fcPSILI AND VARIA ,feDASIA ,",
   "fcPSILI AND OXIA ,feDASIA ,fcPSILI AND PERISPOMENI ,feDASIA ,",
   "bSMALL LETTER OMEGA WITH PSILI AND YPOGEGRAMMENI,fcDASIA ,fcPSILI AND VARIA ,feDASIA ,",
   "fcPSILI AND OXIA ,feDASIA ,fcPSILI AND PERISPOMENI ,feDASIA ,",
   "bCAPITAL LETTER OMEGA WITH PSILI AND PROSGEGRAMMENI,fcDASIA ,fcPSILI AND VARIA ,feDASIA ,",
   "fcPSILI AND OXIA ,feDASIA ,fcPSILI AND PERISPOMENI ,feDASIA ,bSMALL LETTER ALPHA WITH VRACHY,",
   "fMACRON,fVARIA AND YPOGEGRAMMENI,fb,fbOXIA AND ,2fPERISPOMENI,fPERISPOMENI AND YPOGEGRAMMENI,",
   "bCAPITAL LETTER ALPHA WITH VRACHY,fMACRON,fVARIA,fOXIA,fPROSGEGRAMMENI,bKORONIS,",
   "bPROSGEGRAMMENI,bPSILI,bPERISPOMENI,bbDIALYTIKA AND ,",
   "bSMALL LETTER ETA WITH VARIA AND YPOGEGRAMMENI,fb,fbOXIA AND ,2fPERISPOMENI,",
   "fPERISPOMENI AND YPOGEGRAMMENI,bCAPITAL LETTER EPSILON WITH VARIA,fOXIA,dETA WITH VARIA,fOXIA,",
   "fPROSGEGRAMMENI,bPSILI AND VARIA,dOXIA,dPERISPOMENI,bSMALL LETTER IOTA WITH VRACHY,fMACRON,",
   "fDIALYTIKA AND VARIA,hOXIA,3fPERISPOMENI,fbDIALYTIKA AND ,bCAPITAL LETTER IOTA WITH VRACHY,",
   "fMACRON,fVARIA,fOXIA,2bDASIA AND VARIA,dOXIA,dPERISPOMENI,bSMALL LETTER UPSILON WITH VRACHY,",
   "fMACRON,fDIALYTIKA AND VARIA,hOXIA,dRHO WITH PSILI,fDASIA,dUPSILON WITH PERISPOMENI,",
   "fbDIALYTIKA AND ,bCAPITAL LETTER UPSILON WITH VRACHY,fMACRON,fVARIA,fOXIA,dRHO WITH DASIA,",
   "bDIALYTIKA AND VARIA,dOXIA,bVARIA,3bSMALL LETTER OMEGA WITH VARIA AND YPOGEGRAMMENI,fb,",
   "fbOXIA AND ,2fPERISPOMENI,fPERISPOMENI AND YPOGEGRAMMENI,bCAPITAL LETTER OMICRON WITH VARIA,",
   "fOXIA,dOMEGA WITH VARIA,fOXIA,fPROSGEGRAMMENI,bOXIA,bDASIA,"]

end EnumCodec.Text
