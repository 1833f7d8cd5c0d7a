/-!
# EnumCodec.Text.CharacterName.Symbols

**The names of the characters from U+2000 to U+2E7F.** The data are those of the Unicode standard,
version 14, with the aliases of characters; names that a rule of the standard gives are left out.
How an entry tells a name from the one before is said where the entries are read.
-/

namespace EnumCodec.Text

/-- The names of the characters from U+2000 to U+2E7F. -/
def symbolNameRows : List String :=
  ["2000aEN QUAD,abEM ,aEN SPACE,abEM ,acTHREE-PER-,adFOUR-,adSIX-,abFIGURE ,abPUNCTUATION ,",
   "abTHIN ,abHAIR ,abZERO WIDTH ,0aZWSP,aZERO WIDTH NON-JOINER,0aZWNJ,aZERO WIDTH JOINER,0aZWJ,",
   "aLEFT-TO-RIGHT MARK,0aLRM,aRIGHT-TO-LEFT MARK,0aRLM,aHYPHEN,abNON-BREAKING ,aFIGURE DASH,",
   "abEN ,abEM ,aHORIZONTAL BAR,aDOUBLE VERTICAL LINE,bbLOW ,aLEFT SINGLE QUOTATION MARK,adRIGHT ,",
   "acSINGLE LOW-9 ,bdHIGH-REVERSED-,acLEFT DOUBLE ,adRIGHT ,acDOUBLE LOW-9 ,bdHIGH-REVERSED-,",
   "aDAGGER,abDOUBLE ,aBULLET,abTRIANGULAR ,aONE DOT LEADER,acTWO ,aHORIZONTAL ELLIPSIS,",
   "aHYPHENATION POINT,aLINE SEPARATOR,abPARAGRAPH ,aLEFT-TO-RIGHT EMBEDDING,0aLRE,",
   "aRIGHT-TO-LEFT EMBEDDING,0aRLE,aPOP DIRECTIONAL FORMATTING,0aPDF,aLEFT-TO-RIGHT OVERRIDE,",
   "0aLRO,aRIGHT-TO-LEFT OVERRIDE,0aRLO,aNARROW NO-BREAK SPACE,0aNNBSP,aPER MILLE SIGN,",
   "bbTEN THOUSAND ,aPRIME,abDOUBLE ,abTRIPLE ,abREVERSED ,bbDOUBLE ,bbTRIPLE ,aCARET,",
   "aSINGLE LEFT-POINTING ANGLE QUOTATION MARK,beRIGHT-,abREFERENCE ,abDOUBLE EXCLAMATION ,",
   "aINTERROBANG,aOVERLINE,aUNDERTIE,aCHARACTER TIE,aCARET INSERTION POINT,aASTERISM,",
   "aHYPHEN BULLET,aFRACTION SLASH,aLEFT SQUARE BRACKET WITH QUILL,aeRIGHT ,aDOUBLE QUESTION MARK,",
   "abQUESTION EXCLAMATION ,abEXCLAMATION QUESTION ,aTIRONIAN SIGN ET,aREVERSED PILCROW SIGN,",
   "aBLACK LEFTWARDS BULLET,bbRIGHTWARDS ,aLOW ASTERISK,aREVERSED SEMICOLON,aCLOSE UP,",
   "aTWO ASTERISKS ALIGNED VERTICALLY,aCOMMERCIAL MINUS SIGN,aSWUNG DASH,aINVERTED UNDERTIE,",
   "aFLOWER PUNCTUATION MARK,aTHREE DOT PUNCTUATION,aQUADRUPLE PRIME,aFOUR DOT PUNCTUATION,",
   "acFIVE ,acTWO ,aFOUR DOT MARK,aDOTTED CROSS,aTRICOLON,aVERTICAL FOUR DOTS,",
   "aMEDIUM MATHEMATICAL SPACE,0aMMSP,aWORD JOINER,0aWJ,aFUNCTION APPLICATION,aINVISIBLE TIMES,",
   "bSEPARATOR,bPLUS,2aLEFT-TO-RIGHT ISOLATE,0aLRI,aRIGHT-TO-LEFT ISOLATE,0aRLI,",
   "aFIRST STRONG ISOLATE,0aFSI,aPOP DIRECTIONAL ISOLATE,0aPDI,aINHIBIT SYMMETRIC SWAPPING,",
   "acACTIVATE ,aINHIBIT ARABIC FORM SHAPING,adACTIVATE ,aNATIONAL DIGIT SHAPES,acNOMINAL ,",
   "aSUPERSCRIPT ZERO,bLATIN SMALL LETTER I,3bFOUR,bFIVE,bSIX,bSEVEN,bEIGHT,bNINE,bPLUS SIGN,",
   "bMINUS,bEQUALS SIGN,bLEFT PARENTHESIS,bbRIGHT ,bLATIN SMALL LETTER N,aSUBSCRIPT ZERO,bONE,",
   "bTWO,bTHREE,bFOUR,bFIVE,bSIX,bSEVEN,bEIGHT,bNINE,bPLUS SIGN,bMINUS,bEQUALS SIGN,",
   "bLEFT PARENTHESIS,bbRIGHT ,2aLATIN SUBSCRIPT SMALL LETTER A,eE,eO,eX,eSCHWA,eH,eK,eL,eM,eN,eP,",
   "eS,eT,4aEURO-CURRENCY SIGN,abCOLON ,abCRUZEIRO ,abFRENCH FRANC ,abLIRA ,abMILL ,abNAIRA ,",
   "abPESETA ,abRUPEE ,abWON ,abNEW SHEQEL ,abDONG ,abEURO ,abKIP ,abTUGRIK ,abDRACHMA ,",
   "abGERMAN PENNY ,abPESO ,abGUARANI ,abAUSTRAL ,abHRYVNIA ,abCEDI ,abLIVRE TOURNOIS ,",
   "abSPESMILO ,abTENGE ,abINDIAN RUPEE ,abTURKISH LIRA ,abNORDIC MARK ,abMANAT ,abRUBLE ,abLARI ,",
   "abBITCOIN ,abSOM ,10aCOMBINING LEFT HARPOON ABOVE,bcRIGHT ,bLONG VERTICAL LINE OVERLAY,",
   "bdSHORT ,bANTICLOCKWISE ARROW ABOVE,bcCLOCKWISE ,bcLEFT ,bcRIGHT ,bRING OVERLAY,bcCLOCKWISE ,",
   "bcANTICLOCKWISE ,bTHREE DOTS ABOVE,bcFOUR ,bENCLOSING CIRCLE,cSQUARE,cDIAMOND,",
   "cCIRCLE BACKSLASH,bLEFT RIGHT ARROW ABOVE,bENCLOSING SCREEN,cKEYCAP,cUPWARD POINTING TRIANGLE,",
   "bREVERSE SOLIDUS OVERLAY,bbDOUBLE VERTICAL STROKE ,bANNUITY SYMBOL,bTRIPLE UNDERDOT,",
   "bWIDE BRIDGE ABOVE,bLEFTWARDS ARROW OVERLAY,bbLONG DOUBLE SOLIDUS ,",
   "bRIGHTWARDS HARPOON WITH BARB DOWNWARDS,beLEFTWARDS ,bLEFT ARROW BELOW,bcRIGHT ,",
   "bASTERISK ABOVE,10aACCOUNT OF,aADDRESSED TO THE SUBJECT,aDOUBLE-STRUCK CAPITAL C,",
   "aDEGREE CELSIUS,aCENTRE LINE SYMBOL,aCARE OF,aCADA UNA,aEULER CONSTANT,aSCRUPLE,",
   "aDEGREE FAHRENHEIT,aSCRIPT SMALL G,bCAPITAL H,acBLACK-LETTER ,acDOUBLE-STRUCK ,",
   "aPLANCK CONSTANT,bCONSTANT OVER TWO PI,aSCRIPT CAPITAL I,acBLACK-LETTER ,aSCRIPT CAPITAL L,",
   "bbSMALL ,aL B BAR SYMBOL,aDOUBLE-STRUCK CAPITAL N,aNUMERO SIGN,aSOUND RECORDING COPYRIGHT,",
   "aSCRIPT CAPITAL P,0aWEIERSTRASS ELLIPTIC FUNCTION,aDOUBLE-STRUCK CAPITAL P,dQ,",
   "aSCRIPT CAPITAL R,acBLACK-LETTER ,acDOUBLE-STRUCK ,aPRESCRIPTION TAKE,aRESPONSE,aSERVICE MARK,",
   "aTELEPHONE SIGN,abTRADE MARK ,aVERSICLE,aDOUBLE-STRUCK CAPITAL Z,aOUNCE SIGN,abOHM ,",
   "acINVERTED ,aBLACK-LETTER CAPITAL Z,aTURNED GREEK SMALL LETTER IOTA,aKELVIN SIGN,abANGSTROM ,",
   "aSCRIPT CAPITAL B,aBLACK-LETTER CAPITAL C,aESTIMATED SYMBOL,aSCRIPT SMALL E,bbCAPITAL ,cF,",
   "acTURNED ,aSCRIPT CAPITAL M,bSMALL O,aALEF SYMBOL,abBET ,abGIMEL ,abDALET ,",
   "aINFORMATION SOURCE,aROTATED CAPITAL Q,aFACSIMILE SIGN,aDOUBLE-STRUCK SMALL PI,dGAMMA,",
   "cbCAPITAL ,dPI,cN-ARY SUMMATION,aTURNED SANS-SERIF CAPITAL G,eL,aeREVERSED ,",
   "aTURNED SANS-SERIF CAPITAL Y,aDOUBLE-STRUCK ITALIC CAPITAL D,dbSMALL ,eE,eI,eJ,aPROPERTY LINE,",
   "aTURNED AMPERSAND,aPER SIGN,aAKTIESELSKAB,aTURNED SMALL F,aSYMBOL FOR SAMARITAN SOURCE,",
   "aVULGAR FRACTION ONE SEVENTH,dNINTH,dTENTH,dTHIRD,cTWO THIRDS,cONE FIFTH,cTWO FIFTHS,cbTHREE ,",
   "cbFOUR ,cONE SIXTH,cFIVE SIXTHS,cONE EIGHTH,cTHREE EIGHTHS,cbFIVE ,cbSEVEN ,",
   "aFRACTION NUMERATOR ONE,abROMAN NUMERAL ,cTWO,cTHREE,cFOUR,cFIVE,cSIX,cSEVEN,cEIGHT,cNINE,",
   "cTEN,cELEVEN,cTWELVE,cFIFTY,cONE HUNDRED,cbFIVE ,cONE THOUSAND,aSMALL ROMAN NUMERAL ONE,dTWO,",
   "dTHREE,dFOUR,dFIVE,dSIX,dSEVEN,dEIGHT,dNINE,dTEN,dELEVEN,dTWELVE,dFIFTY,dONE HUNDRED,dbFIVE ,",
   "dONE THOUSAND,aROMAN NUMERAL ONE THOUSAND C D,cFIVE THOUSAND,cbTEN ,cREVERSED ONE HUNDRED,",
   "aLATIN SMALL LETTER REVERSED C,aROMAN NUMERAL SIX LATE FORM,cbFIFTY EARLY ,dTHOUSAND,",
   "cbONE HUNDRED ,aVULGAR FRACTION ZERO THIRDS,aTURNED DIGIT TWO,cTHREE,5aLEFTWARDS ARROW,",
   "abUPWARDS ,abRIGHTWARDS ,abDOWNWARDS ,abLEFT RIGHT ,abUP DOWN ,abNORTH WEST ,bbEAST ,acSOUTH ,",
   "bbWEST ,aLEFTWARDS ARROW WITH STROKE,adRIGHTWARDS ,aLEFTWARDS WAVE ARROW,acRIGHTWARDS ,",
   "abLEFTWARDS TWO HEADED ,adUPWARDS ,adRIGHTWARDS ,adDOWNWARDS ,aLEFTWARDS ARROW WITH TAIL,",
   "adRIGHTWARDS ,aLEFTWARDS ARROW FROM BAR,adUPWARDS ,adRIGHTWARDS ,adDOWNWARDS ,",
   "aUP DOWN ARROW WITH BASE,aLEFTWARDS ARROW WITH HOOK,adRIGHTWARDS ,aLEFTWARDS ARROW WITH LOOP,",
   "adRIGHTWARDS ,aLEFT RIGHT WAVE ARROW,cARROW WITH STROKE,aDOWNWARDS ZIGZAG ARROW,",
   "aUPWARDS ARROW WITH TIP LEFTWARDS,eRIGHTWARDS,aDOWNWARDS ARROW WITH TIP LEFTWARDS,eRIGHTWARDS,",
   "aRIGHTWARDS ARROW WITH CORNER DOWNWARDS,aDOWNWARDS ARROW WITH CORNER LEFTWARDS,",
   "aANTICLOCKWISE TOP SEMICIRCLE ARROW,adCLOCKWISE ,aNORTH WEST ARROW TO LONG BAR,",
   "abLEFTWARDS ARROW TO BAR OVER RIGHTWARDS ARROW TO ,aANTICLOCKWISE OPEN CIRCLE ARROW,",
   "adCLOCKWISE ,aLEFTWARDS HARPOON WITH BARB UPWARDS,eDOWNWARDS,",
   "aUPWARDS HARPOON WITH BARB RIGHTWARDS,eLEFTWARDS,aRIGHTWARDS HARPOON WITH BARB UPWARDS,",
   "eDOWNWARDS,aDOWNWARDS HARPOON WITH BARB RIGHTWARDS,eLEFTWARDS,",
   "aRIGHTWARDS ARROW OVER LEFTWARDS ARROW,abUPWARDS ARROW LEFTWARDS OF DOWNWARDS ,",
   "abLEFTWARDS ARROW OVER RIGHTWARDS ,bPAIRED ARROWS,acUPWARDS ,acRIGHTWARDS ,acDOWNWARDS ,",
   "aLEFTWARDS HARPOON OVER RIGHTWARDS HARPOON,abRIGHTWARDS HARPOON OVER LEFTWARDS ,",
   "aLEFTWARDS DOUBLE ARROW WITH STROKE,aeLEFT RIGHT ,aeRIGHTWARDS ,aLEFTWARDS DOUBLE ARROW,",
   "acUPWARDS ,acRIGHTWARDS ,acDOWNWARDS ,acLEFT RIGHT ,acUP DOWN ,acNORTH WEST ,bcEAST ,adSOUTH ,",
   "bcWEST ,abLEFTWARDS TRIPLE ,acRIGHTWARDS ,abLEFTWARDS SQUIGGLE ,acRIGHTWARDS ,",
   "aUPWARDS ARROW WITH DOUBLE STROKE,aeDOWNWARDS ,aLEFTWARDS DASHED ARROW,acUPWARDS ,",
   "acRIGHTWARDS ,acDOWNWARDS ,aLEFTWARDS ARROW TO BAR,adRIGHTWARDS ,aLEFTWARDS WHITE ARROW,",
   "acUPWARDS ,acRIGHTWARDS ,acDOWNWARDS ,aUPWARDS WHITE ARROW FROM BAR,dON PEDESTAL,",
   "ePEDESTAL WITH HORIZONTAL BAR,gbVERTICAL ,cDOUBLE ARROW,dARROW ON PEDESTAL,",
   "aRIGHTWARDS WHITE ARROW FROM WALL,aNORTH WEST ARROW TO CORNER,adSOUTH EAST ,",
   "aUP DOWN WHITE ARROW,aRIGHT ARROW WITH SMALL CIRCLE,",
   "aDOWNWARDS ARROW LEFTWARDS OF UPWARDS ARROW,aTHREE RIGHTWARDS ARROWS,",
   "aLEFTWARDS ARROW WITH VERTICAL STROKE,aeRIGHTWARDS ,aeLEFT RIGHT ,",
   "acLEFTWARDS ARROW WITH DOUBLE ,afRIGHTWARDS ,afLEFT RIGHT ,aLEFTWARDS OPEN-HEADED ARROW,",
   "adRIGHTWARDS ,adLEFT RIGHT ,aFOR ALL,aCOMPLEMENT,aPARTIAL DIFFERENTIAL,aTHERE EXISTS,",
   "bDOES NOT EXIST,aEMPTY SET,aINCREMENT,aNABLA,aELEMENT OF,acNOT AN ,acSMALL ,",
   "aCONTAINS AS MEMBER,acDOES NOT CONTAIN ,acSMALL CONTAINS ,aEND OF PROOF,aN-ARY PRODUCT,",
   "cCOPRODUCT,cSUMMATION,aMINUS SIGN,abMINUS-OR-PLUS ,aDOT PLUS,aDIVISION SLASH,aSET MINUS,",
   "aASTERISK OPERATOR,abRING ,abBULLET ,aSQUARE ROOT,abCUBE ,abFOURTH ,aPROPORTIONAL TO,",
   "aINFINITY,aRIGHT ANGLE,ab,abMEASURED ,abSPHERICAL ,aDIVIDES,aDOES NOT DIVIDE,aPARALLEL TO,",
   "acNOT ,aLOGICAL AND,bOR,aINTERSECTION,aUNION,aINTEGRAL,abDOUBLE ,abTRIPLE ,abCONTOUR ,",
   "abSURFACE ,abVOLUME ,abCLOCKWISE ,bbCONTOUR ,acANTICLOCKWISE ,aTHEREFORE,aBECAUSE,aRATIO,",
   "aPROPORTION,aDOT MINUS,aEXCESS,aGEOMETRIC PROPORTION,aHOMOTHETIC,aTILDE OPERATOR,",
   "aREVERSED TILDE,aINVERTED LAZY S,aSINE WAVE,aWREATH PRODUCT,aNOT TILDE,abMINUS ,",
   "aASYMPTOTICALLY EQUAL TO,adNOT ,acAPPROXIMATELY ,bcBUT NOT ACTUALLY ,",
   "adNEITHER APPROXIMATELY NOR ,acALMOST ,adNOT ,acALMOST EQUAL OR ,aTRIPLE TILDE,aALL EQUAL TO,",
   "abEQUIVALENT ,acGEOMETRICALLY ,aDIFFERENCE BETWEEN,aAPPROACHES THE LIMIT,",
   "aGEOMETRICALLY EQUAL TO,aAPPROXIMATELY EQUAL TO OR THE IMAGE OF,",
   "aIMAGE OF OR APPROXIMATELY EQUAL TO,aCOLON EQUALS,aEQUALS COLON,aRING IN EQUAL TO,bc,",
   "abCORRESPONDS ,aESTIMATES,aEQUIANGULAR TO,aSTAR EQUALS,aDELTA EQUAL TO,",
   "aEQUAL TO BY DEFINITION,aMEASURED BY,aQUESTIONED EQUAL TO,acNOT ,abIDENTICAL ,acNOT ,",
   "abSTRICTLY EQUIVALENT ,abLESS-THAN OR EQUAL ,aeGREATER-,acLESS-THAN OVER ,aeGREATER-,",
   "acLESS-THAN BUT NOT ,afGREATER-,aMUCH LESS-THAN,bbGREATER-,aBETWEEN,aNOT EQUIVALENT TO,",
   "bLESS-THAN,bbGREATER-,aNEITHER LESS-THAN NOR EQUAL TO,beGREATER-,abLESS-THAN OR EQUIVALENT ,",
   "aeGREATER-,acNEITHER LESS-THAN NOR ,beGREATER-,aLESS-THAN OR GREATER-THAN,",
   "abGREATER-THAN OR LESS-,abNEITHER LESS-THAN NOR GREATER-,bbGREATER-THAN NOR LESS-,aPRECEDES,",
   "aSUCCEEDS,aPRECEDES OR EQUAL TO,adSUCCEEDS ,abPRECEDES OR EQUIVALENT ,adSUCCEEDS ,",
   "aDOES NOT PRECEDE,cSUCCEED,aSUBSET OF,abSUPERSET ,abNOT A SUBSET ,cbSUPERSET ,",
   "aSUBSET OF OR EQUAL TO,aeSUPERSET ,acNEITHER A SUBSET OF NOR ,ceSUPERSET ,",
   "acSUBSET OF WITH NOT ,afSUPERSET ,aMULTISET,aMULTISET MULTIPLICATION,bUNION,aSQUARE IMAGE OF,",
   "bbORIGINAL ,bIMAGE OF OR EQUAL TO,beORIGINAL ,bCAP,bCUP,aCIRCLED PLUS,bMINUS,bTIMES,",
   "bDIVISION SLASH,bDOT OPERATOR,bbRING ,bbASTERISK ,bEQUALS,bDASH,aSQUARED PLUS,bMINUS,bTIMES,",
   "bDOT OPERATOR,aRIGHT TACK,abLEFT ,abDOWN ,abUP ,aASSERTION,aMODELS,aTRUE,aFORCES,",
   "aTRIPLE VERTICAL BAR RIGHT TURNSTILE,acDOUBLE VERTICAL BAR DOUBLE ,aDOES NOT PROVE,aNOT TRUE,",
   "aDOES NOT FORCE,aNEGATED DOUBLE VERTICAL BAR DOUBLE RIGHT TURNSTILE,aPRECEDES UNDER RELATION,",
   "acSUCCEEDS ,aNORMAL SUBGROUP OF,aCONTAINS AS NORMAL SUBGROUP,aNORMAL SUBGROUP OF OR EQUAL TO,",
   "adCONTAINS AS NORMAL SUBGROUP ,aORIGINAL OF,abIMAGE ,aMULTIMAP,aHERMITIAN CONJUGATE MATRIX,",
   "aINTERCALATE,aXOR,aNAND,aNOR,aRIGHT ANGLE WITH ARC,bTRIANGLE,aN-ARY LOGICAL AND,dOR,",
   "cINTERSECTION,cUNION,aDIAMOND OPERATOR,abDOT ,abSTAR ,aDIVISION TIMES,aBOWTIE,",
   "aLEFT NORMAL FACTOR SEMIDIRECT PRODUCT,aeRIGHT ,acLEFT ,acRIGHT ,aREVERSED TILDE EQUALS,",
   "aCURLY LOGICAL OR,cAND,aDOUBLE SUBSET,bSUPERSET,bINTERSECTION,bUNION,aPITCHFORK,",
   "aEQUAL AND PARALLEL TO,aLESS-THAN WITH DOT,adGREATER-,aVERY MUCH LESS-THAN,cbGREATER-,",
   "acLESS-THAN EQUAL TO OR ,abGREATER-THAN EQUAL TO OR LESS-,af,dbGREATER-,dPRECEDES,dSUCCEEDS,",
   "aDOES NOT PRECEDE OR EQUAL,ccSUCCEED ,aNOT SQUARE IMAGE OF OR EQUAL TO,ceORIGINAL ,",
   "acSQUARE IMAGE OF OR NOT ,bfORIGINAL ,abLESS-THAN BUT NOT EQUIVALENT ,afGREATER-,aePRECEDES ,",
   "aeSUCCEEDS ,aNOT NORMAL SUBGROUP OF,aDOES NOT CONTAIN AS NORMAL SUBGROUP,",
   "aNOT NORMAL SUBGROUP OF OR EQUAL TO,aDOES NOT CONTAIN AS NORMAL SUBGROUP OR EQUAL,",
   "aVERTICAL ELLIPSIS,abMIDLINE HORIZONTAL ,abUP RIGHT DIAGONAL ,adDOWN ,",
   "aELEMENT OF WITH LONG HORIZONTAL STROKE,dcVERTICAL BAR AT END OF ,akSMALL ,",
   "aELEMENT OF WITH DOT ABOVE,dOVERBAR,aeSMALL ,aELEMENT OF WITH UNDERBAR,",
   "dTWO HORIZONTAL STROKES,aCONTAINS WITH LONG HORIZONTAL STROKE,ccVERTICAL BAR AT END OF ,",
   "ajSMALL ,aCONTAINS WITH OVERBAR,adSMALL ,aZ NOTATION BAG MEMBERSHIP,aDIAMETER SIGN,",
   "aELECTRIC ARROW,aHOUSE,aUP ARROWHEAD,abDOWN ,aPROJECTIVE,aPERSPECTIVE,aWAVY LINE,",
   "aLEFT CEILING,abRIGHT ,aLEFT FLOOR,abRIGHT ,aBOTTOM RIGHT CROP,bbLEFT ,abTOP RIGHT ,bbLEFT ,",
   "aREVERSED NOT SIGN,aSQUARE LOZENGE,aARC,aSEGMENT,aSECTOR,aTELEPHONE RECORDER,",
   "aPOSITION INDICATOR,aVIEWDATA SQUARE,aPLACE OF INTEREST SIGN,abTURNED NOT ,aWATCH,aHOURGLASS,",
   "aTOP LEFT CORNER,bbRIGHT ,abBOTTOM LEFT ,bbRIGHT ,aTOP HALF INTEGRAL,acBOTTOM ,aFROWN,aSMILE,",
   "aUP ARROWHEAD BETWEEN TWO HORIZONTAL BARS,aOPTION KEY,aERASE TO THE RIGHT,",
   "aX IN A RECTANGLE BOX,aKEYBOARD,aLEFT-POINTING ANGLE BRACKET,adRIGHT-,aERASE TO THE LEFT,",
   "aBENZENE RING,aCYLINDRICITY,aALL AROUND-PROFILE,aSYMMETRY,aTOTAL RUNOUT,aDIMENSION ORIGIN,",
   "aCONICAL TAPER,aSLOPE,aCOUNTERBORE,aCOUNTERSINK,aAPL FUNCTIONAL SYMBOL I-BEAM,dSQUISH QUAD,",
   "dQUAD EQUAL,eDIVIDE,eDIAMOND,eJOT,eCIRCLE,dCIRCLE STILE,eJOT,dSLASH BAR,dbBACKSLASH ,",
   "dQUAD SLASH,eBACKSLASH,eLESS-THAN,ebGREATER-,dLEFTWARDS VANE,dbRIGHTWARDS ,",
   "dQUAD LEFTWARDS ARROW,ebRIGHTWARDS ,dCIRCLE BACKSLASH,dDOWN TACK UNDERBAR,dDELTA STILE,",
   "dQUAD DOWN CARET,eDELTA,dDOWN TACK JOT,dUPWARDS VANE,dQUAD UPWARDS ARROW,dUP TACK OVERBAR,",
   "dDEL STILE,dQUAD UP CARET,eDEL,dUP TACK JOT,dDOWNWARDS VANE,dQUAD DOWNWARDS ARROW,",
   "dQUOTE UNDERBAR,dbDELTA ,dbDIAMOND ,dbJOT ,dbCIRCLE ,dUP SHOE JOT,dQUOTE QUAD,dCIRCLE STAR,",
   "dQUAD COLON,dUP TACK DIAERESIS,dbDEL ,dbSTAR ,dbJOT ,dbCIRCLE ,dDOWN SHOE STILE,dcLEFT ,",
   "dTILDE DIAERESIS,dbGREATER-THAN ,dCOMMA BAR,dDEL TILDE,dZILDE,dSTILE TILDE,",
   "dSEMICOLON UNDERBAR,dQUAD NOT EQUAL,eQUESTION,dDOWN CARET TILDE,dcUP ,dIOTA,dRHO,dOMEGA,",
   "dALPHA UNDERBAR,dbEPSILON ,dbIOTA ,dbOMEGA ,dALPHA,aNOT CHECK MARK,",
   "aRIGHT ANGLE WITH DOWNWARDS ZIGZAG ARROW,aSHOULDERED OPEN BOX,aBELL SYMBOL,",
   "aVERTICAL LINE WITH MIDDLE DOT,aINSERTION SYMBOL,abCONTINUOUS UNDERLINE ,acDISCONTINUOUS ,",
   "abEMPHASIS ,abCOMPOSITION ,aWHITE SQUARE WITH CENTRE VERTICAL LINE,aENTER SYMBOL,",
   "abALTERNATIVE KEY ,abHELM ,aCIRCLED HORIZONTAL BAR WITH NOTCH,bTRIANGLE DOWN,",
   "aBROKEN CIRCLE WITH NORTHWEST ARROW,aUNDO SYMBOL,abMONOSTABLE ,abHYSTERESIS ,",
   "abOPEN-CIRCUIT-OUTPUT H-TYPE ,dcL-,abPASSIVE-PULL-DOWN-OUTPUT ,ccUP-,",
   "aDIRECT CURRENT SYMBOL FORM TWO,aSOFTWARE-FUNCTION SYMBOL,aAPL FUNCTIONAL SYMBOL QUAD,",
   "aDECIMAL SEPARATOR KEY SYMBOL,aPREVIOUS PAGE,abNEXT ,aPRINT SCREEN SYMBOL,acCLEAR ,",
   "aLEFT PARENTHESIS UPPER HOOK,cEXTENSION,cLOWER HOOK,abRIGHT PARENTHESIS UPPER ,cEXTENSION,",
   "cLOWER HOOK,aLEFT SQUARE BRACKET UPPER CORNER,dEXTENSION,dLOWER CORNER,",
   "abRIGHT SQUARE BRACKET UPPER ,dEXTENSION,dLOWER CORNER,aLEFT CURLY BRACKET UPPER HOOK,",
   "dMIDDLE PIECE,dLOWER HOOK,aCURLY BRACKET EXTENSION,aRIGHT CURLY BRACKET UPPER HOOK,",
   "dMIDDLE PIECE,dLOWER HOOK,aINTEGRAL EXTENSION,abHORIZONTAL LINE ,",
   "aUPPER LEFT OR LOWER RIGHT CURLY BRACKET SECTION,bdRIGHT OR LOWER LEFT ,aSUMMATION TOP,",
   "bBOTTOM,aTOP SQUARE BRACKET,acBOTTOM ,cbBRACKET OVER TOP SQUARE ,aRADICAL SYMBOL BOTTOM,",
   "aLEFT VERTICAL BOX LINE,adRIGHT ,aHORIZONTAL SCAN LINE-1,d3,d7,d9,",
   "aDENTISTRY SYMBOL LIGHT VERTICAL AND TOP RIGHT,fbBOTTOM ,eWITH CIRCLE,dcDOWN AND HORIZONTAL ,",
   "deUP ,dVERTICAL WITH TRIANGLE,dcDOWN AND HORIZONTAL ,deUP ,dVERTICAL AND WAVE,",
   "dbDOWN AND HORIZONTAL WITH ,deUP ,dDOWN AND HORIZONTAL,dcUP ,dVERTICAL AND TOP LEFT,fbBOTTOM ,",
   "aSQUARE FOOT,aRETURN SYMBOL,abEJECT ,aVERTICAL LINE EXTENSION,aMETRICAL BREVE,",
   "bLONG OVER SHORT,bSHORT OVER LONG,bLONG OVER TWO SHORTS,bTWO SHORTS OVER LONG,dJOINED,",
   "bTRISEME,bTETRASEME,bPENTASEME,aEARTH GROUND,aFUSE,aTOP PARENTHESIS,abBOTTOM ,",
   "aTOP CURLY BRACKET,acBOTTOM ,abTOP TORTOISE SHELL ,adBOTTOM ,aWHITE TRAPEZIUM,",
   "aBENZENE RING WITH CIRCLE,aSTRAIGHTNESS,aFLATNESS,aAC CURRENT,aELECTRICAL INTERSECTION,",
   "aDECIMAL EXPONENT SYMBOL,aBLACK RIGHT-POINTING DOUBLE TRIANGLE,bdLEFT-,bdUP-,bdDOWN-,",
   "bRIGHT-POINTING DOUBLE TRIANGLE WITH VERTICAL BAR,bgLEFT-,",
   "bcRIGHT-POINTING TRIANGLE WITH DOUBLE ,aALARM CLOCK,aSTOPWATCH,aTIMER CLOCK,",
   "aHOURGLASS WITH FLOWING SAND,aBLACK MEDIUM LEFT-POINTING TRIANGLE,ccRIGHT-,ccUP-,ccDOWN-,",
   "aDOUBLE VERTICAL BAR,aBLACK SQUARE FOR STOP,bCIRCLE FOR RECORD,aPOWER SYMBOL,bbON-OFF ,bbON ,",
   "bbSLEEP ,abOBSERVER EYE ,aSYMBOL FOR NULL,cSTART OF HEADING,eTEXT,ccEND ,eTRANSMISSION,",
   "cENQUIRY,cACKNOWLEDGE,cBELL,cBACKSPACE,cHORIZONTAL TABULATION,cLINE FEED,cVERTICAL TABULATION,",
   "cFORM FEED,cCARRIAGE RETURN,cSHIFT OUT,dIN,cDATA LINK ESCAPE,cDEVICE CONTROL ONE,eTWO,eTHREE,",
   "eFOUR,cNEGATIVE ACKNOWLEDGE,cSYNCHRONOUS IDLE,cEND OF TRANSMISSION BLOCK,cCANCEL,",
   "cEND OF MEDIUM,cSUBSTITUTE,cESCAPE,cFILE SEPARATOR,cbGROUP ,cbRECORD ,cbUNIT ,cSPACE,cDELETE,",
   "aBLANK SYMBOL,aOPEN BOX,aSYMBOL FOR NEWLINE,cDELETE FORM TWO,ccSUBSTITUTE ,1AaOCR HOOK,bCHAIR,",
   "bFORK,bbINVERTED ,bBELT BUCKLE,bBOW TIE,bBRANCH BANK IDENTIFICATION,bAMOUNT OF CHECK,bDASH,",
   "0aMICR ON US SYMBOL,aOCR CUSTOMER ACCOUNT NUMBER,0aMICR DASH SYMBOL,aOCR DOUBLE BACKSLASH,",
   "16aCIRCLED DIGIT ONE,cTWO,cTHREE,cFOUR,cFIVE,cSIX,cSEVEN,cEIGHT,cNINE,bNUMBER TEN,cELEVEN,",
   "cTWELVE,cTHIRTEEN,cFOURTEEN,cFIFTEEN,cSIXTEEN,cSEVENTEEN,cEIGHTEEN,cNINETEEN,cTWENTY,",
   "aPARENTHESIZED DIGIT ONE,cTWO,cTHREE,cFOUR,cFIVE,cSIX,cSEVEN,cEIGHT,cNINE,bNUMBER TEN,cELEVEN,",
   "cTWELVE,cTHIRTEEN,cFOURTEEN,cFIFTEEN,cSIXTEEN,cSEVENTEEN,cEIGHTEEN,cNINETEEN,cTWENTY,",
   "aDIGIT ONE FULL STOP,bcTWO ,bcTHREE ,bcFOUR ,bcFIVE ,bcSIX ,bcSEVEN ,bcEIGHT ,bcNINE ,",
   "acNUMBER TEN ,bcELEVEN ,bcTWELVE ,bcTHIRTEEN ,bcFOURTEEN ,bcFIFTEEN ,bcSIXTEEN ,bcSEVENTEEN ,",
   "bcEIGHTEEN ,bcNINETEEN ,bcTWENTY ,aPARENTHESIZED LATIN SMALL LETTER A,eB,eC,eD,eE,eF,eG,eH,eI,",
   "eJ,eK,eL,eM,eN,eO,eP,eQ,eR,eS,eT,eU,eV,eW,eX,eY,eZ,aCIRCLED LATIN CAPITAL LETTER A,eB,eC,eD,",
   "eE,eF,eG,eH,eI,eJ,eK,eL,eM,eN,eO,eP,eQ,eR,eS,eT,eU,eV,eW,eX,eY,eZ,cSMALL LETTER A,eB,eC,eD,eE,",
   "eF,eG,eH,eI,eJ,eK,eL,eM,eN,eO,eP,eQ,eR,eS,eT,eU,eV,eW,eX,eY,eZ,bDIGIT ZERO,",
   "aNEGATIVE CIRCLED NUMBER ELEVEN,dTWELVE,dTHIRTEEN,dFOURTEEN,dFIFTEEN,dSIXTEEN,dSEVENTEEN,",
   "dEIGHTEEN,dNINETEEN,dTWENTY,aDOUBLE CIRCLED DIGIT ONE,dTWO,dTHREE,dFOUR,dFIVE,dSIX,dSEVEN,",
   "dEIGHT,dNINE,cNUMBER TEN,aNEGATIVE CIRCLED DIGIT ZERO,aBOX DRAWINGS LIGHT HORIZONTAL,cbHEAVY ,",
   "cLIGHT VERTICAL,cbHEAVY ,cLIGHT TRIPLE DASH HORIZONTAL,cdHEAVY ,cLIGHT TRIPLE DASH VERTICAL,",
   "cdHEAVY ,cLIGHT QUADRUPLE DASH HORIZONTAL,cdHEAVY ,cLIGHT QUADRUPLE DASH VERTICAL,cdHEAVY ,",
   "cLIGHT DOWN AND RIGHT,cDOWN LIGHT AND RIGHT HEAVY,dHEAVY AND RIGHT LIGHT,",
   "cHEAVY DOWN AND RIGHT,cLIGHT DOWN AND LEFT,cDOWN LIGHT AND LEFT HEAVY,dHEAVY AND LEFT LIGHT,",
   "cHEAVY DOWN AND LEFT,cLIGHT UP AND RIGHT,cUP LIGHT AND RIGHT HEAVY,dHEAVY AND RIGHT LIGHT,",
   "cHEAVY UP AND RIGHT,cLIGHT UP AND LEFT,cUP LIGHT AND LEFT HEAVY,dHEAVY AND LEFT LIGHT,",
   "cHEAVY UP AND LEFT,cLIGHT VERTICAL AND RIGHT,cVERTICAL LIGHT AND RIGHT HEAVY,",
   "cUP HEAVY AND RIGHT DOWN LIGHT,cbDOWN HEAVY AND RIGHT UP ,cbVERTICAL HEAVY AND RIGHT ,",
   "cDOWN LIGHT AND RIGHT UP HEAVY,cbUP LIGHT AND RIGHT DOWN ,cHEAVY VERTICAL AND RIGHT,",
   "cLIGHT VERTICAL AND LEFT,cVERTICAL LIGHT AND LEFT HEAVY,cUP HEAVY AND LEFT DOWN LIGHT,",
   "cbDOWN HEAVY AND LEFT UP ,cbVERTICAL HEAVY AND LEFT ,cDOWN LIGHT AND LEFT UP HEAVY,",
   "cbUP LIGHT AND LEFT DOWN ,cHEAVY VERTICAL AND LEFT,cLIGHT DOWN AND HORIZONTAL,",
   "cLEFT HEAVY AND RIGHT DOWN LIGHT,ccRIGHT HEAVY AND LEFT ,cDOWN LIGHT AND HORIZONTAL HEAVY,",
   "dHEAVY AND HORIZONTAL LIGHT,cRIGHT LIGHT AND LEFT DOWN HEAVY,ccLEFT LIGHT AND RIGHT ,",
   "cHEAVY DOWN AND HORIZONTAL,ccLIGHT UP ,cLEFT HEAVY AND RIGHT UP LIGHT,ccRIGHT HEAVY AND LEFT ,",
   "cUP LIGHT AND HORIZONTAL HEAVY,dHEAVY AND HORIZONTAL LIGHT,cRIGHT LIGHT AND LEFT UP HEAVY,",
   "ccLEFT LIGHT AND RIGHT ,cHEAVY UP AND HORIZONTAL,ccLIGHT VERTICAL ,",
   "cLEFT HEAVY AND RIGHT VERTICAL LIGHT,ccRIGHT HEAVY AND LEFT ,",
   "cVERTICAL LIGHT AND HORIZONTAL HEAVY,cUP HEAVY AND DOWN HORIZONTAL LIGHT,ccDOWN HEAVY AND UP ,",
   "ccVERTICAL HEAVY AND ,cbLEFT UP HEAVY AND RIGHT DOWN ,ccRIGHT UP HEAVY AND LEFT ,",
   "cbLEFT DOWN HEAVY AND RIGHT UP ,ccRIGHT DOWN HEAVY AND LEFT ,",
   "cDOWN LIGHT AND UP HORIZONTAL HEAVY,ccUP LIGHT AND DOWN ,cbRIGHT LIGHT AND LEFT VERTICAL ,",
   "ccLEFT LIGHT AND RIGHT ,cHEAVY VERTICAL AND HORIZONTAL,cbLIGHT DOUBLE DASH ,cdHEAVY ,",
   "cLIGHT DOUBLE DASH VERTICAL,cdHEAVY ,cDOUBLE HORIZONTAL,dVERTICAL,",
   "cDOWN SINGLE AND RIGHT DOUBLE,dDOUBLE AND RIGHT SINGLE,cDOUBLE DOWN AND RIGHT,",
   "cDOWN SINGLE AND LEFT DOUBLE,dDOUBLE AND LEFT SINGLE,cDOUBLE DOWN AND LEFT,",
   "cUP SINGLE AND RIGHT DOUBLE,dDOUBLE AND RIGHT SINGLE,cDOUBLE UP AND RIGHT,",
   "cUP SINGLE AND LEFT DOUBLE,dDOUBLE AND LEFT SINGLE,cDOUBLE UP AND LEFT,",
   "cVERTICAL SINGLE AND RIGHT DOUBLE,dDOUBLE AND RIGHT SINGLE,cDOUBLE VERTICAL AND RIGHT,",
   "cVERTICAL SINGLE AND LEFT DOUBLE,dDOUBLE AND LEFT SINGLE,cDOUBLE VERTICAL AND LEFT,",
   "cDOWN SINGLE AND HORIZONTAL DOUBLE,dDOUBLE AND HORIZONTAL SINGLE,cDOUBLE DOWN AND HORIZONTAL,",
   "cUP SINGLE AND HORIZONTAL DOUBLE,dDOUBLE AND HORIZONTAL SINGLE,cDOUBLE UP AND HORIZONTAL,",
   "cVERTICAL SINGLE AND HORIZONTAL DOUBLE,dDOUBLE AND HORIZONTAL SINGLE,",
   "cDOUBLE VERTICAL AND HORIZONTAL,cLIGHT ARC DOWN AND RIGHT,gLEFT,ecUP ,gRIGHT,",
   "dDIAGONAL UPPER RIGHT TO LOWER LEFT,fLEFT TO LOWER RIGHT,eCROSS,dLEFT,dUP,dRIGHT,dDOWN,",
   "cHEAVY LEFT,dUP,dRIGHT,dDOWN,cLIGHT LEFT AND HEAVY RIGHT,dUP AND HEAVY DOWN,",
   "cHEAVY LEFT AND LIGHT RIGHT,dUP AND LIGHT DOWN,aUPPER HALF BLOCK,abLOWER ONE EIGHTH ,",
   "cbQUARTER ,bbTHREE EIGHTHS ,bbHALF ,bbFIVE EIGHTHS ,bbTHREE QUARTERS ,bbSEVEN EIGHTHS ,",
   "abFULL ,abLEFT SEVEN EIGHTHS ,bbTHREE QUARTERS ,bbFIVE EIGHTHS ,bbHALF ,bbTHREE EIGHTHS ,",
   "bbONE QUARTER ,cbEIGHTH ,abRIGHT HALF ,aLIGHT SHADE,abMEDIUM ,abDARK ,aUPPER ONE EIGHTH BLOCK,",
   "adRIGHT ,aQUADRANT LOWER LEFT,cRIGHT,bUPPER LEFT,cLEFT AND LOWER LEFT AND LOWER RIGHT,fb,",
   "eUPPER RIGHT AND LOWER LEFT,iRIGHT,cb,cRIGHT AND LOWER LEFT,fLEFT AND LOWER RIGHT,",
   "aBLACK SQUARE,abWHITE ,bSQUARE WITH ROUNDED CORNERS,cCONTAINING BLACK SMALL SQUARE,",
   "aSQUARE WITH HORIZONTAL FILL,cbVERTICAL ,cbORTHOGONAL CROSSHATCH ,",
   "cbUPPER LEFT TO LOWER RIGHT ,dbRIGHT TO LOWER LEFT ,cbDIAGONAL CROSSHATCH ,",
   "aBLACK SMALL SQUARE,acWHITE ,aBLACK RECTANGLE,abWHITE ,abBLACK VERTICAL ,acWHITE ,",
   "aBLACK PARALLELOGRAM,abWHITE ,aBLACK UP-POINTING TRIANGLE,adWHITE ,abBLACK UP-POINTING SMALL ,",
   "aeWHITE ,abBLACK RIGHT-POINTING ,adWHITE ,abBLACK RIGHT-POINTING SMALL ,aeWHITE ,",
   "aBLACK RIGHT-POINTING POINTER,adWHITE ,aBLACK DOWN-POINTING TRIANGLE,adWHITE ,",
   "abBLACK DOWN-POINTING SMALL ,aeWHITE ,abBLACK LEFT-POINTING ,adWHITE ,",
   "abBLACK LEFT-POINTING SMALL ,aeWHITE ,aBLACK LEFT-POINTING POINTER,adWHITE ,aBLACK DIAMOND,",
   "abWHITE ,bbDIAMOND CONTAINING BLACK SMALL ,aFISHEYE,aLOZENGE,aWHITE CIRCLE,abDOTTED ,",
   "aCIRCLE WITH VERTICAL FILL,aBULLSEYE,aBLACK CIRCLE,aCIRCLE WITH LEFT HALF BLACK,ccRIGHT ,",
   "ccLOWER ,ccUPPER ,dbRIGHT QUADRANT ,ccALL BUT UPPER LEFT ,aLEFT HALF BLACK CIRCLE,adRIGHT ,",
   "aINVERSE BULLET,bWHITE CIRCLE,adUPPER HALF ,aeLOWER ,aUPPER LEFT QUADRANT CIRCULAR ARC,",
   "bdRIGHT ,aeLOWER ,bdLEFT ,aUPPER HALF CIRCLE,acLOWER ,aBLACK LOWER RIGHT TRIANGLE,cbLEFT ,",
   "bcUPPER ,cbRIGHT ,aWHITE BULLET,aSQUARE WITH LEFT HALF BLACK,ccRIGHT ,ccUPPER LEFT DIAGONAL ,",
   "cdLOWER RIGHT ,aWHITE SQUARE WITH VERTICAL BISECTING LINE,bUP-POINTING TRIANGLE WITH DOT,",
   "aUP-POINTING TRIANGLE WITH LEFT HALF BLACK,ecRIGHT ,aLARGE CIRCLE,",
   "aWHITE SQUARE WITH UPPER LEFT QUADRANT,dcLOWER ,ebRIGHT ,dcUPPER ,bbCIRCLE WITH UPPER LEFT ,",
   "dcLOWER ,ebRIGHT ,dcUPPER ,aUPPER LEFT TRIANGLE,bbRIGHT ,abLOWER LEFT ,aWHITE MEDIUM SQUARE,",
   "acBLACK ,abWHITE MEDIUM SMALL ,adBLACK ,aLOWER RIGHT TRIANGLE,aBLACK SUN WITH RAYS,aCLOUD,",
   "aUMBRELLA,aSNOWMAN,aCOMET,aBLACK STAR,abWHITE ,aLIGHTNING,aTHUNDERSTORM,aSUN,aASCENDING NODE,",
   "abDESCENDING ,aCONJUNCTION,aOPPOSITION,aBLACK TELEPHONE,abWHITE ,aBALLOT BOX,bBOX WITH CHECK,",
   "dX,aSALTIRE,aUMBRELLA WITH RAIN DROPS,aHOT BEVERAGE,aWHITE SHOGI PIECE,acBLACK ,aSHAMROCK,",
   "aREVERSED ROTATED FLORAL HEART BULLET,aBLACK LEFT POINTING INDEX,bcRIGHT ,acWHITE LEFT ,bcUP ,",
   "bcRIGHT ,bcDOWN ,aSKULL AND CROSSBONES,aCAUTION SIGN,abRADIOACTIVE ,abBIOHAZARD ,aCADUCEUS,",
   "aANKH,aORTHODOX CROSS,aCHI RHO,aCROSS OF LORRAINE,cJERUSALEM,aSTAR AND CRESCENT,aFARSI SYMBOL,",
   "aADI SHAKTI,aHAMMER AND SICKLE,aPEACE SYMBOL,aYIN YANG,aTRIGRAM FOR HEAVEN,cLAKE,cFIRE,",
   "cTHUNDER,cWIND,cWATER,cMOUNTAIN,cEARTH,aWHEEL OF DHARMA,aWHITE FROWNING FACE,bbSMILING ,",
   "acBLACK ,aWHITE SUN WITH RAYS,aFIRST QUARTER MOON,acLAST ,aMERCURY,aFEMALE SIGN,aEARTH,",
   "aMALE SIGN,aJUPITER,aSATURN,aURANUS,aNEPTUNE,aPLUTO,aARIES,aTAURUS,aGEMINI,aCANCER,aLEO,",
   "aVIRGO,aLIBRA,aSCORPIUS,aSAGITTARIUS,aCAPRICORN,aAQUARIUS,aPISCES,aWHITE CHESS KING,cQUEEN,",
   "cROOK,cBISHOP,cKNIGHT,cPAWN,aBLACK CHESS KING,cQUEEN,cROOK,cBISHOP,cKNIGHT,cPAWN,bSPADE SUIT,",
   "abWHITE HEART ,bbDIAMOND ,abBLACK CLUB ,abWHITE SPADE ,abBLACK HEART ,bbDIAMOND ,",
   "abWHITE CLUB ,aHOT SPRINGS,aQUARTER NOTE,abEIGHTH ,aBEAMED EIGHTH NOTES,bbSIXTEENTH ,",
   "aMUSIC FLAT SIGN,bbNATURAL ,bbSHARP ,aWEST SYRIAC CROSS,acEAST ,aUNIVERSAL RECYCLING SYMBOL,",
   "aRECYCLING SYMBOL FOR TYPE-1 PLASTICS,eb2 ,eb3 ,eb4 ,eb5 ,eb6 ,eb7 ,dGENERIC MATERIALS,",
   "aBLACK UNIVERSAL RECYCLING SYMBOL,abRECYCLED PAPER ,adPARTIALLY-,aPERMANENT PAPER SIGN,",
   "aWHEELCHAIR SYMBOL,aDIE FACE-1,c2,c3,c4,c5,c6,aWHITE CIRCLE WITH DOT RIGHT,dTWO DOTS,",
   "aBLACK CIRCLE WITH WHITE DOT RIGHT,dTWO WHITE DOTS,aMONOGRAM FOR YANG,cYIN,",
   "aDIGRAM FOR GREATER YANG,cLESSER YIN,dYANG,cGREATER YIN,aWHITE FLAG,abBLACK ,aHAMMER AND PICK,",
   "aANCHOR,aCROSSED SWORDS,aSTAFF OF AESCULAPIUS,aSCALES,aALEMBIC,aFLOWER,aGEAR,aSTAFF OF HERMES,",
   "aATOM SYMBOL,aFLEUR-DE-LIS,aOUTLINED WHITE STAR,aTHREE LINES CONVERGING RIGHT,dLEFT,",
   "aWARNING SIGN,abHIGH VOLTAGE ,abDOUBLED FEMALE ,bbMALE ,acINTERLOCKED FEMALE AND ,",
   "abMALE AND FEMALE ,bbWITH STROKE ,dbAND MALE AND FEMALE ,abVERTICAL MALE WITH STROKE ,",
   "aeHORIZONTAL ,aMEDIUM WHITE CIRCLE,bbBLACK ,bbSMALL WHITE ,aMARRIAGE SYMBOL,abDIVORCE ,",
   "abUNMARRIED PARTNERSHIP ,aCOFFIN,aFUNERAL URN,aNEUTER,aCERES,aPALLAS,aJUNO,aVESTA,aCHIRON,",
   "aBLACK MOON LILITH,aSEXTILE,aSEMISEXTILE,aQUINCUNX,aSESQUIQUADRATE,aSOCCER BALL,aBASEBALL,",
   "aSQUARED KEY,aWHITE DRAUGHTS MAN,cKING,aBLACK DRAUGHTS MAN,cKING,aSNOWMAN WITHOUT SNOW,",
   "aSUN BEHIND CLOUD,aRAIN,aBLACK SNOWMAN,aTHUNDER CLOUD AND RAIN,aTURNED WHITE SHOGI PIECE,",
   "bcBLACK ,aWHITE DIAMOND IN SQUARE,aCROSSING LANES,aDISABLED CAR,aOPHIUCHUS,aPICK,aCAR SLIDING,",
   "aHELMET WITH WHITE CROSS,aCIRCLED CROSSING LANES,aCHAINS,aNO ENTRY,",
   "aALTERNATE ONE-WAY LEFT WAY TRAFFIC,aeBLACK TWO-,afWHITE ,aBLACK LEFT LANE MERGE,adWHITE ,",
   "aDRIVE SLOW SIGN,aHEAVY WHITE DOWN-POINTING TRIANGLE,aLEFT CLOSED ENTRY,aSQUARED SALTIRE,",
   "aFALLING DIAGONAL IN WHITE CIRCLE IN BLACK SQUARE,aBLACK TRUCK,aRESTRICTED LEFT ENTRY-1,d2,",
   "aASTRONOMICAL SYMBOL FOR URANUS,aHEAVY CIRCLE WITH STROKE AND TWO DOTS ABOVE,aPENTAGRAM,",
   "abRIGHT-HANDED INTERLACED ,adLEFT-,abINVERTED ,aBLACK CROSS ON SHIELD,aSHINTO SHRINE,aCHURCH,",
   "aCASTLE,aHISTORIC SITE,aGEAR WITHOUT HUB,bWITH HANDLES,aMAP SYMBOL FOR LIGHTHOUSE,aMOUNTAIN,",
   "aUMBRELLA ON GROUND,aFOUNTAIN,aFLAG IN HOLE,aFERRY,aSAILBOAT,aSQUARE FOUR CORNERS,aSKIER,",
   "aICE SKATE,aPERSON WITH BALL,aTENT,aJAPANESE BANK SYMBOL,abHEADSTONE GRAVEYARD ,aFUEL PUMP,",
   "aCUP ON BLACK SQUARE,aWHITE FLAG WITH HORIZONTAL MIDDLE BLACK STRIPE,aBLACK SAFETY SCISSORS,",
   "abUPPER BLADE ,abBLACK ,abLOWER BLADE ,abWHITE ,bHEAVY CHECK MARK,aTELEPHONE LOCATION SIGN,",
   "aTAPE DRIVE,aAIRPLANE,aENVELOPE,aRAISED FIST,bHAND,abVICTORY ,abWRITING ,aLOWER RIGHT PENCIL,",
   "ab,abUPPER RIGHT ,aWHITE NIB,abBLACK ,aCHECK MARK,acHEAVY ,aMULTIPLICATION X,acHEAVY ,",
   "abBALLOT ,acHEAVY ,aOUTLINED GREEK CROSS,acHEAVY ,abOPEN CENTRE ,adHEAVY ,abLATIN ,",
   "acSHADOWED WHITE ,acOUTLINED ,abMALTESE ,aSTAR OF DAVID,aFOUR TEARDROP-SPOKED ASTERISK,",
   "bcBALLOON-,aeHEAVY ,acFOUR CLUB-,aBLACK FOUR POINTED STAR,adWHITE ,aSPARKLES,",
   "aSTRESS OUTLINED WHITE STAR,acCIRCLED ,abOPEN CENTRE BLACK ,abBLACK CENTRE WHITE ,",
   "abOUTLINED BLACK ,adHEAVY ,abPINWHEEL ,abSHADOWED WHITE ,aHEAVY ASTERISK,abOPEN CENTRE ,",
   "abEIGHT SPOKED ,bPOINTED BLACK STAR,cbPINWHEEL ,abSIX POINTED BLACK ,",
   "acEIGHT POINTED RECTILINEAR ,afHEAVY ,acTWELVE POINTED ,aSIXTEEN POINTED ASTERISK,",
   "abTEARDROP-SPOKED ,adOPEN CENTRE ,adHEAVY ,aSIX PETALLED BLACK AND WHITE FLORETTE,abBLACK ,",
   "abWHITE ,abEIGHT PETALLED OUTLINED BLACK ,aCIRCLED OPEN CENTRE EIGHT POINTED STAR,",
   "aHEAVY TEARDROP-SPOKED PINWHEEL ASTERISK,aSNOWFLAKE,abTIGHT TRIFOLIATE ,abHEAVY CHEVRON ,",
   "aSPARKLE,abHEAVY ,aBALLOON-SPOKED ASTERISK,abEIGHT TEARDROP-SPOKED PROPELLER ,afHEAVY ,",
   "aCROSS MARK,aSHADOWED WHITE CIRCLE,aNEGATIVE SQUARED CROSS MARK,",
   "aLOWER RIGHT DROP-SHADOWED WHITE SQUARE,afUPPER ,adLOWER RIGHT ,aeUPPER ,",
   "aBLACK QUESTION MARK ORNAMENT,adWHITE ,bcEXCLAMATION ,aBLACK DIAMOND MINUS WHITE X,",
   "aHEAVY EXCLAMATION MARK SYMBOL,aLIGHT VERTICAL BAR,acMEDIUM ,acHEAVY ,",
   "bSINGLE TURNED COMMA QUOTATION MARK ORNAMENT,ce,beDOUBLE TURNED ,ce,beLOW SINGLE ,ceDOUBLE ,",
   "abCURVED STEM PARAGRAPH SIGN ,abHEAVY EXCLAMATION MARK ,bdHEART ,bBLACK HEART,",
   "aROTATED HEAVY BLACK HEART BULLET,aFLORAL HEART,aROTATED FLORAL HEART BULLET,",
   "aMEDIUM LEFT PARENTHESIS ORNAMENT,bcRIGHT ,bcFLATTENED LEFT ,ccRIGHT ,",
   "bbLEFT-POINTING ANGLE BRACKET ,beRIGHT-,abHEAVY LEFT-POINTING ANGLE QUOTATION MARK ,bfRIGHT-,",
   "bbLEFT-POINTING ANGLE BRACKET ,beRIGHT-,acLIGHT LEFT TORTOISE SHELL ,beRIGHT ,",
   "acMEDIUM LEFT CURLY ,bdRIGHT ,aDINGBAT NEGATIVE CIRCLED DIGIT ONE,eTWO,eTHREE,eFOUR,eFIVE,",
   "eSIX,eSEVEN,eEIGHT,eNINE,dNUMBER TEN,bCIRCLED SANS-SERIF DIGIT ONE,fTWO,fTHREE,fFOUR,fFIVE,",
   "fSIX,fSEVEN,fEIGHT,fNINE,eNUMBER TEN,bNEGATIVE CIRCLED SANS-SERIF DIGIT ONE,gTWO,gTHREE,gFOUR,",
   "gFIVE,gSIX,gSEVEN,gEIGHT,gNINE,fNUMBER TEN,aHEAVY WIDE-HEADED RIGHTWARDS ARROW,bPLUS SIGN,",
   "bbMINUS ,bbDIVISION ,bSOUTH EAST ARROW,bbRIGHTWARDS ,bbNORTH EAST ,",
   "abDRAFTING POINT RIGHTWARDS ,acHEAVY ROUND-TIPPED ,acTRIANGLE-HEADED ,aeHEAVY ,aeDASHED ,",
   "afHEAVY ,acBLACK ,aTHREE-D TOP-LIGHTED RIGHTWARDS ARROWHEAD,cdBOTTOM-,acBLACK ,",
   "aHEAVY BLACK CURVED DOWNWARDS AND RIGHTWARDS ARROW,ddUPWARDS ,acSQUAT BLACK ,",
   "adHEAVY CONCAVE-POINTED ,acRIGHT-SHADED WHITE ,aeLEFT-,adBACK-TILTED SHADOWED ,afFRONT-,",
   "aeHEAVY LOWER RIGHT-,bfUPPER ,afNOTCHED LOWER ,aCURLY LOOP,",
   "aNOTCHED UPPER RIGHT-SHADOWED WHITE RIGHTWARDS ARROW,adCIRCLED HEAVY ,acWHITE-FEATHERED ,",
   "abBLACK-FEATHERED SOUTH EAST ,cbRIGHTWARDS ,cbNORTH EAST ,acHEAVY BLACK-FEATHERED SOUTH ,",
   "dbRIGHTWARDS ,dbNORTH EAST ,abTEARDROP-BARBED RIGHTWARDS ,acHEAVY TEARDROP-SHANKED ,",
   "acWEDGE-TAILED ,aeHEAVY ,acOPEN-OUTLINED ,aDOUBLE CURLY LOOP,aTHREE DIMENSIONAL ANGLE,",
   "aWHITE TRIANGLE CONTAINING SMALL WHITE TRIANGLE,aPERPENDICULAR,aOPEN SUBSET,bSUPERSET,",
   "aLEFT S-SHAPED BAG DELIMITER,aeRIGHT ,aOR WITH DOT INSIDE,aREVERSE SOLIDUS PRECEDING SUBSET,",
   "aSUPERSET PRECEDING SOLIDUS,aVERTICAL BAR WITH HORIZONTAL STROKE,",
   "aMATHEMATICAL RISING DIAGONAL,aLONG DIVISION,aMATHEMATICAL FALLING DIAGONAL,",
   "aSQUARED LOGICAL AND,cOR,aWHITE DIAMOND WITH CENTRED DOT,abAND WITH ,",
   "aELEMENT OF OPENING UPWARDS,aLOWER RIGHT CORNER WITH DOT,adUPPER LEFT ,aLEFT OUTER JOIN,",
   "acRIGHT ,acFULL ,aLARGE UP TACK,bbDOWN ,aLEFT AND RIGHT DOUBLE TURNSTILE,dTACK,bMULTIMAP,",
   "aLONG RIGHT TACK,bbLEFT ,aUP TACK WITH CIRCLE ABOVE,aLOZENGE DIVIDED BY HORIZONTAL RULE,",
   "aWHITE CONCAVE-SIDED DIAMOND,dDIAMOND WITH LEFTWARDS TICK,fbRIGHTWARDS ,",
   "bbSQUARE WITH LEFTWARDS ,dbRIGHTWARDS ,aMATHEMATICAL LEFT WHITE SQUARE BRACKET,bdRIGHT ,",
   "bbLEFT ANGLE ,bcRIGHT ,bcLEFT DOUBLE ,bdRIGHT ,bbLEFT WHITE TORTOISE SHELL ,beRIGHT ,",
   "bLEFT FLATTENED PARENTHESIS,bcRIGHT ,aUPWARDS QUADRUPLE ARROW,acDOWNWARDS ,",
   "abANTICLOCKWISE GAPPED CIRCLE ,adCLOCKWISE ,aRIGHT ARROW WITH CIRCLED PLUS,",
   "aLONG LEFTWARDS ARROW,bbRIGHTWARDS ,bbLEFT RIGHT ,bbLEFTWARDS DOUBLE ,bcRIGHTWARDS ,",
   "bcLEFT RIGHT ,bLEFTWARDS ARROW FROM BAR,bdRIGHTWARDS ,bdLEFTWARDS DOUBLE ,beRIGHTWARDS ,",
   "cSQUIGGLE ARROW,aBRAILLE PATTERN BLANK,cDOTS-1,d2,d12,d3,d13,d23,d123,d4,d14,d24,d124,d34,",
   "d134,d234,d1234,d5,d15,d25,d125,d35,d135,d235,d1235,d45,d145,d245,d1245,d345,d1345,d2345,",
   "d12345,d6,d16,d26,d126,d36,d136,d236,d1236,d46,d146,d246,d1246,d346,d1346,d2346,d12346,d56,",
   "d156,d256,d1256,d356,d1356,d2356,d12356,d456,d1456,d2456,d12456,d3456,d13456,d23456,d123456,",
   "d7,d17,d27,d127,d37,d137,d237,d1237,d47,d147,d247,d1247,d347,d1347,d2347,d12347,d57,d157,d257,",
   "d1257,d357,d1357,d2357,d12357,d457,d1457,d2457,d12457,d3457,d13457,d23457,d123457,d67,d167,",
   "d267,d1267,d367,d1367,d2367,d12367,d467,d1467,d2467,d12467,d3467,d13467,d23467,d123467,d567,",
   "d1567,d2567,d12567,d3567,d13567,d23567,d123567,d4567,d14567,d24567,d124567,d34567,d134567,",
   "d234567,d1234567,d8,d18,d28,d128,d38,d138,d238,d1238,d48,d148,d248,d1248,d348,d1348,d2348,",
   "d12348,d58,d158,d258,d1258,d358,d1358,d2358,d12358,d458,d1458,d2458,d12458,d3458,d13458,",
   "d23458,d123458,d68,d168,d268,d1268,d368,d1368,d2368,d12368,d468,d1468,d2468,d12468,d3468,",
   "d13468,d23468,d123468,d568,d1568,d2568,d12568,d3568,d13568,d23568,d123568,d4568,d14568,d24568,",
   "d124568,d34568,d134568,d234568,d1234568,d78,d178,d278,d1278,d378,d1378,d2378,d12378,d478,",
   "d1478,d2478,d12478,d3478,d13478,d23478,d123478,d578,d1578,d2578,d12578,d3578,d13578,d23578,",
   "d123578,d4578,d14578,d24578,d124578,d34578,d134578,d234578,d1234578,d678,d1678,d2678,d12678,",
   "d3678,d13678,d23678,d123678,d4678,d14678,d24678,d124678,d34678,d134678,d234678,d1234678,d5678,",
   "d15678,d25678,d125678,d35678,d135678,d235678,d1235678,d45678,d145678,d245678,d1245678,d345678,",
   "d1345678,d2345678,d12345678,aRIGHTWARDS TWO-HEADED ARROW WITH VERTICAL STROKE,fcDOUBLE ,",
   "acLEFTWARDS DOUBLE ARROW WITH ,afRIGHTWARDS ,afLEFT RIGHT ,",
   "aRIGHTWARDS TWO-HEADED ARROW FROM BAR,adLEFTWARDS DOUBLE ,aeRIGHTWARDS ,",
   "aDOWNWARDS ARROW WITH HORIZONTAL STROKE,aeUPWARDS ,bTRIPLE ARROW,acDOWNWARDS ,",
   "abLEFTWARDS DOUBLE DASH ,adRIGHTWARDS ,acLEFTWARDS TRIPLE ,adRIGHTWARDS ,bdTWO-HEADED ,",
   "bARROW WITH DOTTED STEM,aUPWARDS ARROW TO BAR,adDOWNWARDS ,",
   "aRIGHTWARDS ARROW WITH TAIL WITH VERTICAL STROKE,fcDOUBLE ,bTWO-HEADED ARROW WITH TAIL,",
   "fTAIL WITH VERTICAL STROKE,hcDOUBLE ,aLEFTWARDS ARROW-TAIL,acRIGHTWARDS ,acLEFTWARDS DOUBLE ,",
   "adRIGHTWARDS ,aLEFTWARDS ARROW TO BLACK DIAMOND,aeRIGHTWARDS ,adLEFTWARDS ARROW FROM BAR ,",
   "agRIGHTWARDS ,aNORTH WEST AND SOUTH EAST ARROW,bbEAST AND SOUTH WEST ,bWEST ARROW WITH HOOK,",
   "bdEAST ,aeSOUTH ,bdWEST ,aNORTH WEST ARROW AND NORTH EAST ARROW,bcEAST ARROW AND SOUTH ,",
   "abSOUTH EAST ARROW AND SOUTH WEST ,bcWEST ARROW AND NORTH ,",
   "aRISING DIAGONAL CROSSING FALLING DIAGONAL,abFALLING DIAGONAL CROSSING RISING ,",
   "aSOUTH EAST ARROW CROSSING NORTH EAST ARROW,acNORTH EAST ARROW CROSSING SOUTH ,",
   "acFALLING DIAGONAL CROSSING NORTH ,acRISING DIAGONAL CROSSING SOUTH ,",
   "abNORTH EAST ARROW CROSSING NORTH WEST ,bbWEST ARROW CROSSING NORTH EAST ,",
   "aWAVE ARROW POINTING DIRECTLY RIGHT,aARROW POINTING RIGHTWARDS THEN CURVING UPWARDS,",
   "fDOWNWARDS,cDOWNWARDS THEN CURVING LEFTWARDS,fRIGHTWARDS,aRIGHT-SIDE ARC CLOCKWISE ARROW,",
   "abLEFT-SIDE ARC ANTICLOCKWISE ,adTOP ,adBOTTOM ,aTOP ARC CLOCKWISE ARROW WITH MINUS,",
   "cANTICLOCKWISE ARROW WITH PLUS,aLOWER RIGHT SEMICIRCULAR CLOCKWISE ARROW,",
   "bbLEFT SEMICIRCULAR ANTICLOCKWISE ,abANTICLOCKWISE CLOSED CIRCLE ,adCLOCKWISE ,",
   "abRIGHTWARDS ARROW ABOVE SHORT LEFTWARDS ,abLEFTWARDS ARROW ABOVE SHORT RIGHTWARDS ,",
   "abSHORT RIGHTWARDS ARROW ABOVE LEFTWARDS ,aRIGHTWARDS ARROW WITH PLUS BELOW,aeLEFTWARDS ,",
   "aRIGHTWARDS ARROW THROUGH X,aLEFT RIGHT ARROW THROUGH SMALL CIRCLE,",
   "acUPWARDS TWO-HEADED ARROW FROM ,aLEFT BARB UP RIGHT BARB DOWN HARPOON,cbDOWN RIGHT BARB UP ,",
   "abUP BARB RIGHT DOWN BARB LEFT ,cbLEFT DOWN BARB RIGHT ,abLEFT BARB UP RIGHT BARB UP ,",
   "abUP BARB RIGHT DOWN BARB RIGHT ,abLEFT BARB DOWN RIGHT BARB DOWN ,",
   "abUP BARB LEFT DOWN BARB LEFT ,aLEFTWARDS HARPOON WITH BARB UP TO BAR,agRIGHTWARDS ,",
   "acUPWARDS HARPOON WITH BARB RIGHT ,agDOWNWARDS ,acLEFTWARDS HARPOON WITH BARB DOWN ,",
   "agRIGHTWARDS ,acUPWARDS HARPOON WITH BARB LEFT ,agDOWNWARDS ,",
   "abLEFTWARDS HARPOON WITH BARB UP FROM ,agRIGHTWARDS ,acUPWARDS HARPOON WITH BARB RIGHT ,",
   "agDOWNWARDS ,acLEFTWARDS HARPOON WITH BARB DOWN ,agRIGHTWARDS ,",
   "acUPWARDS HARPOON WITH BARB LEFT ,agDOWNWARDS ,",
   "aLEFTWARDS HARPOON WITH BARB UP ABOVE LEFTWARDS HARPOON WITH BARB DOWN,",
   "aUPWARDS HARPOON WITH BARB LEFT BESIDE UPWARDS HARPOON WITH BARB RIGHT,",
   "aRIGHTWARDS HARPOON WITH BARB UP ABOVE RIGHTWARDS HARPOON WITH BARB DOWN,",
   "aDOWNWARDS HARPOON WITH BARB LEFT BESIDE DOWNWARDS HARPOON WITH BARB RIGHT,",
   "aLEFTWARDS HARPOON WITH BARB UP ABOVE RIGHTWARDS HARPOON WITH BARB UP,",
   "eDOWN ABOVE RIGHTWARDS HARPOON WITH BARB DOWN,",
   "aRIGHTWARDS HARPOON WITH BARB UP ABOVE LEFTWARDS HARPOON WITH BARB UP,",
   "eDOWN ABOVE LEFTWARDS HARPOON WITH BARB DOWN,aLEFTWARDS HARPOON WITH BARB UP ABOVE LONG DASH,",
   "ecDOWN BELOW ,acRIGHTWARDS HARPOON WITH BARB UP ABOVE ,ecDOWN BELOW ,",
   "aUPWARDS HARPOON WITH BARB LEFT BESIDE DOWNWARDS HARPOON WITH BARB RIGHT,",
   "aeDOWNWARDS HARPOON WITH BARB LEFT BESIDE UPWARDS ,aRIGHT DOUBLE ARROW WITH ROUNDED HEAD,",
   "aEQUALS SIGN ABOVE RIGHTWARDS ARROW,adTILDE OPERATOR ,aLEFTWARDS ARROW ABOVE TILDE OPERATOR,",
   "aeRIGHTWARDS ,dALMOST EQUAL TO,aLESS-THAN ABOVE LEFTWARDS ARROW,",
   "aLEFTWARDS ARROW THROUGH LESS-THAN,aGREATER-THAN ABOVE RIGHTWARDS ARROW,adSUBSET ,",
   "aLEFTWARDS ARROW THROUGH SUBSET,aSUPERSET ABOVE LEFTWARDS ARROW,aLEFT FISH TAIL,acRIGHT ,",
   "acUP ,acDOWN ,aTRIPLE VERTICAL BAR DELIMITER,aZ NOTATION SPOT,cTYPE COLON,",
   "aLEFT WHITE CURLY BRACKET,adRIGHT ,aLEFT WHITE PARENTHESIS,acRIGHT ,",
   "aZ NOTATION LEFT IMAGE BRACKET,ccRIGHT ,cbLEFT BINDING ,ccRIGHT ,",
   "aLEFT SQUARE BRACKET WITH UNDERBAR,aeRIGHT ,aLEFT SQUARE BRACKET WITH TICK IN TOP CORNER,",
   "abRIGHT SQUARE BRACKET WITH TICK IN BOTTOM ,ahLEFT ,abRIGHT SQUARE BRACKET WITH TICK IN TOP ,",
   "aLEFT ANGLE BRACKET WITH DOT,aeRIGHT ,aLEFT ARC LESS-THAN BRACKET,acRIGHT ARC GREATER-,",
   "aeDOUBLE LEFT ,bcRIGHT ARC LESS-,abLEFT BLACK TORTOISE SHELL ,aeRIGHT ,aDOTTED FENCE,",
   "aVERTICAL ZIGZAG LINE,aMEASURED ANGLE OPENING LEFT,aRIGHT ANGLE VARIANT WITH SQUARE,",
   "aMEASURED RIGHT ANGLE WITH DOT,aANGLE WITH S INSIDE,aACUTE ANGLE,",
   "aSPHERICAL ANGLE OPENING LEFT,dUP,aTURNED ANGLE,abREVERSED ,aANGLE WITH UNDERBAR,adREVERSED ,",
   "aOBLIQUE ANGLE OPENING UP,dDOWN,",
   "aMEASURED ANGLE WITH OPEN ARM ENDING IN ARROW POINTING UP AND RIGHT,lLEFT,jDOWN AND RIGHT,",
   "lLEFT,jRIGHT AND UP,jcLEFT ,jRIGHT AND DOWN,jcLEFT ,aREVERSED EMPTY SET,",
   "aEMPTY SET WITH OVERBAR,dSMALL CIRCLE ABOVE,dbRIGHT ARROW ,dcLEFT ,",
   "aCIRCLE WITH HORIZONTAL BAR,abCIRCLED VERTICAL ,bPARALLEL,bREVERSE SOLIDUS,bPERPENDICULAR,",
   "aCIRCLE DIVIDED BY HORIZONTAL BAR AND TOP HALF DIVIDED BY VERTICAL BAR,bWITH SUPERIMPOSED X,",
   "aCIRCLED ANTICLOCKWISE-ROTATED DIVISION SIGN,aUP ARROW THROUGH CIRCLE,aCIRCLED WHITE BULLET,",
   "bb,bLESS-THAN,bbGREATER-,aCIRCLE WITH SMALL CIRCLE TO THE RIGHT,cdTWO HORIZONTAL STROKES ,",
   "aSQUARED RISING DIAGONAL SLASH,bcFALLING ,bASTERISK,bSMALL CIRCLE,bSQUARE,aTWO JOINED SQUARES,",
   "aTRIANGLE WITH DOT ABOVE,cUNDERBAR,aS IN TRIANGLE,aTRIANGLE WITH SERIFS AT BOTTOM,",
   "aRIGHT TRIANGLE ABOVE LEFT TRIANGLE,aLEFT TRIANGLE BESIDE VERTICAL BAR,",
   "aVERTICAL BAR BESIDE RIGHT TRIANGLE,aBOWTIE WITH LEFT HALF BLACK,ccRIGHT ,aBLACK BOWTIE,",
   "aTIMES WITH LEFT HALF BLACK,ccRIGHT ,aWHITE HOURGLASS,abBLACK ,aLEFT WIGGLY FENCE,acRIGHT ,",
   "acLEFT DOUBLE ,adRIGHT ,aINCOMPLETE INFINITY,abTIE OVER ,aINFINITY NEGATED WITH VERTICAL BAR,",
   "aDOUBLE-ENDED MULTIMAP,aSQUARE WITH CONTOURED OUTLINE,aINCREASES AS,aSHUFFLE PRODUCT,",
   "aEQUALS SIGN AND SLANTED PARALLEL,ePARALLEL WITH TILDE ABOVE,",
   "aIDENTICAL TO AND SLANTED PARALLEL,aGLEICH STARK,aTHERMODYNAMIC,",
   "aDOWN-POINTING TRIANGLE WITH LEFT HALF BLACK,ecRIGHT ,aBLACK DIAMOND WITH DOWN ARROW,bLOZENGE,",
   "aWHITE CIRCLE WITH DOWN ARROW,aeBLACK ,aERROR-BARRED WHITE SQUARE,cbBLACK ,cWHITE DIAMOND,",
   "cbBLACK ,cWHITE CIRCLE,cbBLACK ,aRULE-DELAYED,aREVERSE SOLIDUS OPERATOR,aSOLIDUS WITH OVERBAR,",
   "aREVERSE SOLIDUS WITH HORIZONTAL STROKE,aBIG SOLIDUS,bbREVERSE ,aDOUBLE PLUS,abTRIPLE ,",
   "aLEFT-POINTING CURVED ANGLE BRACKET,aeRIGHT-,aTINY,aMINY,aN-ARY CIRCLED DOT OPERATOR,dbPLUS ,",
   "dbTIMES ,cUNION OPERATOR WITH DOT,fPLUS,cSQUARE INTERSECTION OPERATOR,dbUNION ,",
   "abTWO LOGICAL AND ,cbOR ,abN-ARY TIMES ,aMODULO TWO SUM,aSUMMATION WITH INTEGRAL,",
   "aQUADRUPLE INTEGRAL OPERATOR,aFINITE PART INTEGRAL,aINTEGRAL WITH DOUBLE STROKE,",
   "bAVERAGE WITH SLASH,aCIRCULATION FUNCTION,aANTICLOCKWISE INTEGRATION,",
   "aLINE INTEGRATION WITH RECTANGULAR PATH AROUND POLE,ddSEMICIRCULAR ,cbNOT INCLUDING THE ,",
   "aINTEGRAL AROUND A POINT OPERATOR,abQUATERNION INTEGRAL ,",
   "aINTEGRAL WITH LEFTWARDS ARROW WITH HOOK,cTIMES SIGN,cINTERSECTION,cUNION,cOVERBAR,cUNDERBAR,",
   "aJOIN,aLARGE LEFT TRIANGLE OPERATOR,aZ NOTATION SCHEMA COMPOSITION,dPIPING,dPROJECTION,",
   "aPLUS SIGN WITH SMALL CIRCLE ABOVE,dbCIRCUMFLEX ACCENT ,dbTILDE ,dDOT BELOW,dbTILDE ,",
   "dSUBSCRIPT TWO,dBLACK TRIANGLE,aMINUS SIGN WITH COMMA ABOVE,dDOT BELOW,dFALLING DOTS,",
   "dbRISING ,aPLUS SIGN IN LEFT HALF CIRCLE,dcRIGHT ,aVECTOR OR CROSS PRODUCT,",
   "aMULTIPLICATION SIGN WITH DOT ABOVE,dUNDERBAR,aSEMIDIRECT PRODUCT WITH BOTTOM CLOSED,",
   "aSMASH PRODUCT,aMULTIPLICATION SIGN IN LEFT HALF CIRCLE,dcRIGHT ,",
   "aCIRCLED MULTIPLICATION SIGN WITH CIRCUMFLEX ACCENT,aMULTIPLICATION SIGN IN DOUBLE CIRCLE,",
   "aCIRCLED DIVISION SIGN,aPLUS SIGN IN TRIANGLE,adMINUS ,adMULTIPLICATION ,aINTERIOR PRODUCT,",
   "acRIGHTHAND ,aZ NOTATION RELATIONAL COMPOSITION,aAMALGAMATION OR COPRODUCT,",
   "aINTERSECTION WITH DOT,aUNION WITH MINUS SIGN,cOVERBAR,acINTERSECTION ,cLOGICAL AND,",
   "aUNION WITH LOGICAL OR,bABOVE INTERSECTION,aINTERSECTION ABOVE UNION,",
   "aUNION ABOVE BAR ABOVE INTERSECTION,aINTERSECTION ABOVE BAR ABOVE UNION,",
   "abUNION BESIDE AND JOINED WITH ,aINTERSECTION BESIDE AND JOINED WITH INTERSECTION,",
   "aCLOSED UNION WITH SERIFS,bcINTERSECTION ,aDOUBLE SQUARE INTERSECTION,cUNION,",
   "aCLOSED UNION WITH SERIFS AND SMASH PRODUCT,aLOGICAL AND WITH DOT ABOVE,bdOR ,",
   "aDOUBLE LOGICAL AND,cOR,aTWO INTERSECTING LOGICAL AND,dOR,abSLOPING LARGE ,cAND,",
   "abLOGICAL OR OVERLAPPING LOGICAL ,bAND WITH MIDDLE STEM,bdOR ,bAND WITH HORIZONTAL DASH,bdOR ,",
   "bAND WITH DOUBLE OVERBAR,dUNDERBAR,dbDOUBLE ,abSMALL VEE WITH ,",
   "aLOGICAL OR WITH DOUBLE OVERBAR,eUNDERBAR,aZ NOTATION DOMAIN ANTIRESTRICTION,cbRANGE ,",
   "aEQUALS SIGN WITH DOT BELOW,aIDENTICAL WITH DOT ABOVE,",
   "aTRIPLE HORIZONTAL BAR WITH DOUBLE VERTICAL STROKE,ecTRIPLE ,aTILDE OPERATOR WITH DOT ABOVE,",
   "dRISING DOTS,aSIMILAR MINUS SIMILAR,aCONGRUENT WITH DOT ABOVE,aEQUALS WITH ASTERISK,",
   "aALMOST EQUAL TO WITH CIRCUMFLEX ACCENT,aAPPROXIMATELY EQUAL OR EQUAL TO,",
   "aEQUALS SIGN ABOVE PLUS SIGN,abPLUS SIGN ABOVE EQUALS ,aEQUALS SIGN ABOVE TILDE OPERATOR,",
   "aDOUBLE COLON EQUAL,aTWO CONSECUTIVE EQUALS SIGNS,adTHREE ,",
   "aEQUALS SIGN WITH TWO DOTS ABOVE AND TWO DOTS BELOW,aEQUIVALENT WITH FOUR DOTS ABOVE,",
   "aLESS-THAN WITH CIRCLE INSIDE,aeGREATER-,aLESS-THAN WITH QUESTION MARK ABOVE,afGREATER-,",
   "aLESS-THAN OR SLANTED EQUAL TO,afGREATER-,aLESS-THAN OR SLANTED EQUAL TO WITH DOT INSIDE,",
   "aiGREATER-,aLESS-THAN OR SLANTED EQUAL TO WITH DOT ABOVE,aiGREATER-,",
   "aLESS-THAN OR SLANTED EQUAL TO WITH DOT ABOVE RIGHT,",
   "aGREATER-THAN OR SLANTED EQUAL TO WITH DOT ABOVE LEFT,aLESS-THAN OR APPROXIMATE,adGREATER-,",
   "aLESS-THAN AND SINGLE-LINE NOT EQUAL TO,ahGREATER-,aLESS-THAN AND NOT APPROXIMATE,aeGREATER-,",
   "aLESS-THAN ABOVE DOUBLE-LINE EQUAL ABOVE GREATER-THAN,",
   "abGREATER-THAN ABOVE DOUBLE-LINE EQUAL ABOVE LESS-,aLESS-THAN ABOVE SIMILAR OR EQUAL,",
   "afGREATER-,aLESS-THAN ABOVE SIMILAR ABOVE GREATER-THAN,",
   "abGREATER-THAN ABOVE SIMILAR ABOVE LESS-,",
   "aLESS-THAN ABOVE GREATER-THAN ABOVE DOUBLE-LINE EQUAL,afGREATER-THAN ABOVE LESS-,",
   "abLESS-THAN ABOVE SLANTED EQUAL ABOVE GREATER-THAN ABOVE SLANTED ,",
   "aeGREATER-THAN ABOVE SLANTED EQUAL ABOVE LESS-,aSLANTED EQUAL TO OR LESS-THAN,ebGREATER-,",
   "eLESS-THAN WITH DOT INSIDE,eeGREATER-,aDOUBLE-LINE EQUAL TO OR LESS-THAN,fbGREATER-,",
   "cbSLANTED EQUAL TO OR LESS-,gbGREATER-,abSIMILAR OR LESS-,cbGREATER-,",
   "bABOVE LESS-THAN ABOVE EQUALS SIGN,ceGREATER-,aDOUBLE NESTED LESS-THAN,cbGREATER-,",
   "cLESS-THAN WITH UNDERBAR,aGREATER-THAN OVERLAPPING LESS-THAN,ccBESIDE ,",
   "aLESS-THAN CLOSED BY CURVE,aeGREATER-,aLESS-THAN CLOSED BY CURVE ABOVE SLANTED EQUAL,",
   "ahGREATER-,aSMALLER THAN,abLARGER ,aSMALLER THAN OR EQUAL TO,aeLARGER ,",
   "aEQUALS SIGN WITH BUMPY ABOVE,aPRECEDES ABOVE SINGLE-LINE EQUALS SIGN,afSUCCEEDS ,",
   "aPRECEDES ABOVE SINGLE-LINE NOT EQUAL TO,agSUCCEEDS ,aPRECEDES ABOVE EQUALS SIGN,adSUCCEEDS ,",
   "aPRECEDES ABOVE NOT EQUAL TO,aeSUCCEEDS ,acPRECEDES ABOVE ALMOST ,aeSUCCEEDS ,",
   "adPRECEDES ABOVE NOT ,afSUCCEEDS ,aDOUBLE PRECEDES,bSUCCEEDS,aSUBSET WITH DOT,acSUPERSET ,",
   "aSUBSET WITH PLUS SIGN BELOW,aeSUPERSET ,acSUBSET WITH MULTIPLICATION ,aeSUPERSET ,",
   "aSUBSET OF OR EQUAL TO WITH DOT ABOVE,ahSUPERSET ,aSUBSET OF ABOVE EQUALS SIGN,aeSUPERSET ,",
   "aSUBSET OF ABOVE TILDE OPERATOR,aeSUPERSET ,aSUBSET OF ABOVE ALMOST EQUAL TO,afSUPERSET ,",
   "acSUBSET OF ABOVE NOT ,afSUPERSET ,aSQUARE LEFT OPEN BOX OPERATOR,bdRIGHT ,aCLOSED SUBSET,",
   "bSUPERSET,bSUBSET OR EQUAL TO,bdSUPERSET ,aSUBSET ABOVE SUPERSET,aSUPERSET ABOVE SUBSET,",
   "acSUBSET ,aSUPERSET ABOVE SUPERSET,bBESIDE SUBSET,cbAND JOINED BY DASH WITH ,",
   "aELEMENT OF OPENING DOWNWARDS,aPITCHFORK WITH TEE TOP,aTRANSVERSAL INTERSECTION,aFORKING,",
   "aNONFORKING,aSHORT LEFT TACK,bbDOWN ,bbUP ,aPERPENDICULAR WITH S,",
   "aVERTICAL BAR TRIPLE RIGHT TURNSTILE,abDOUBLE VERTICAL BAR LEFT ,acVERTICAL BAR DOUBLE ,",
   "afDOUBLE ,aLONG DASH FROM LEFT MEMBER OF DOUBLE VERTICAL,aSHORT DOWN TACK WITH OVERBAR,",
   "bUP TACK WITH UNDERBAR,dABOVE SHORT DOWN TACK,acDOUBLE ,bbUP ,bSTROKE NOT SIGN,aeREVERSED ,",
   "aDOES NOT DIVIDE WITH REVERSED NEGATION SLASH,aVERTICAL LINE WITH CIRCLE ABOVE,eBELOW,",
   "adDOWN TACK ,aPARALLEL WITH HORIZONTAL STROKE,cTILDE OPERATOR,",
   "aTRIPLE VERTICAL BAR BINARY RELATION,dWITH HORIZONTAL STROKE,bCOLON OPERATOR,",
   "bNESTED LESS-THAN,cbGREATER-,aDOUBLE-LINE SLANTED LESS-THAN OR EQUAL TO,deGREATER-,",
   "aTRIPLE SOLIDUS BINARY RELATION,aLARGE TRIPLE VERTICAL BAR OPERATOR,abDOUBLE SOLIDUS ,",
   "aWHITE VERTICAL BAR,adN-ARY ,aNORTH EAST WHITE ARROW,bcWEST ,acSOUTH EAST ,bcWEST ,",
   "acLEFT RIGHT ,abLEFTWARDS BLACK ,acUPWARDS ,acDOWNWARDS ,acNORTH EAST ,bcWEST ,acSOUTH EAST ,",
   "bcWEST ,acLEFT RIGHT ,acUP DOWN ,aRIGHTWARDS ARROW WITH TIP DOWNWARDS,eUPWARDS,",
   "aLEFTWARDS ARROW WITH TIP DOWNWARDS,eUPWARDS,aSQUARE WITH TOP HALF BLACK,ccBOTTOM ,",
   "ccUPPER RIGHT DIAGONAL ,cdLOWER LEFT ,acDIAMOND WITH LEFT ,ccRIGHT ,ccTOP ,ccBOTTOM ,",
   "aDOTTED SQUARE,abBLACK LARGE ,acWHITE ,abBLACK VERY SMALL ,adWHITE ,aBLACK PENTAGON,abWHITE ,",
   "bHEXAGON,abBLACK ,acHORIZONTAL ,aBLACK LARGE CIRCLE,bMEDIUM DIAMOND,acWHITE ,",
   "aBLACK MEDIUM LOZENGE,acWHITE ,aBLACK SMALL DIAMOND,cLOZENGE,acWHITE ,",
   "aBLACK HORIZONTAL ELLIPSE,acWHITE ,abBLACK VERTICAL ,acWHITE ,aLEFT ARROW WITH SMALL CIRCLE,",
   "aTHREE LEFTWARDS ARROWS,aLEFT ARROW WITH CIRCLED PLUS,aLONG LEFTWARDS SQUIGGLE ARROW,",
   "aLEFTWARDS TWO-HEADED ARROW WITH VERTICAL STROKE,fcDOUBLE ,eFROM BAR,dTRIPLE DASH ARROW,",
   "bARROW WITH DOTTED STEM,dTAIL WITH VERTICAL STROKE,fcDOUBLE ,bTWO-HEADED ARROW WITH TAIL,",
   "fTAIL WITH VERTICAL STROKE,hcDOUBLE ,bARROW THROUGH X,aWAVE ARROW POINTING DIRECTLY LEFT,",
   "aEQUALS SIGN ABOVE LEFTWARDS ARROW,adREVERSE TILDE OPERATOR ,",
   "aLEFTWARDS ARROW ABOVE REVERSE ALMOST EQUAL TO,aRIGHTWARDS ARROW THROUGH GREATER-THAN,",
   "dSUPERSET,aLEFTWARDS QUADRUPLE ARROW,acRIGHTWARDS ,abREVERSE TILDE OPERATOR ABOVE RIGHTWARDS ,",
   "aRIGHTWARDS ARROW ABOVE REVERSE ALMOST EQUAL TO,aTILDE OPERATOR ABOVE LEFTWARDS ARROW,",
   "aLEFTWARDS ARROW ABOVE ALMOST EQUAL TO,dREVERSE TILDE OPERATOR,afRIGHTWARDS ,",
   "aDOWNWARDS TRIANGLE-HEADED ZIGZAG ARROW,abSHORT SLANTED NORTH ,bbBACKSLANTED SOUTH ,",
   "aWHITE MEDIUM STAR,abBLACK SMALL ,acWHITE ,aBLACK RIGHT-POINTING PENTAGON,adWHITE ,",
   "aHEAVY LARGE CIRCLE,bOVAL WITH OVAL INSIDE,bbCIRCLE WITH CIRCLE ,bCIRCLE,bCIRCLED SALTIRE,",
   "aSLANTED NORTH ARROW WITH HOOKED HEAD,aBACKSLANTED SOUTH ARROW WITH HOOKED TAIL,",
   "abSLANTED NORTH ARROW WITH HORIZONTAL ,aeBACKSLANTED SOUTH ,",
   "aBENT ARROW POINTING DOWNWARDS THEN NORTH EAST,ahSHORT ,aLEFTWARDS TRIANGLE-HEADED ARROW,",
   "adUPWARDS ,adRIGHTWARDS ,adDOWNWARDS ,adLEFT RIGHT ,adUP DOWN ,adNORTH WEST ,bdEAST ,aeSOUTH ,",
   "bdWEST ,abLEFTWARDS TRIANGLE-HEADED DASHED ,aeUPWARDS ,aeRIGHTWARDS ,aeDOWNWARDS ,",
   "abCLOCKWISE TRIANGLE-HEADED OPEN CIRCLE ,afANTICLOCKWISE ,",
   "aLEFTWARDS TRIANGLE-HEADED ARROW TO BAR,afUPWARDS ,afRIGHTWARDS ,afDOWNWARDS ,3afNORTH WEST ,",
   "bfEAST ,agSOUTH ,bfWEST ,aLEFTWARDS TRIANGLE-HEADED ARROW WITH DOUBLE HORIZONTAL STROKE,",
   "0gbVERTICAL ,abUPWARDS TRIANGLE-HEADED ARROW WITH DOUBLE HORIZONTAL ,ahRIGHTWARDS ,",
   "0gbVERTICAL ,abDOWNWARDS TRIANGLE-HEADED ARROW WITH DOUBLE HORIZONTAL ,aHORIZONTAL TAB KEY,",
   "acVERTICAL ,aLEFTWARDS TRIANGLE-HEADED ARROW OVER RIGHTWARDS TRIANGLE-HEADED ARROW,",
   "adUPWARDS TRIANGLE-HEADED ARROW LEFTWARDS OF DOWNWARDS ,",
   "adRIGHTWARDS TRIANGLE-HEADED ARROW OVER LEFTWARDS ,",
   "adDOWNWARDS TRIANGLE-HEADED ARROW LEFTWARDS OF UPWARDS ,",
   "aLEFTWARDS TRIANGLE-HEADED PAIRED ARROWS,aeUPWARDS ,aeRIGHTWARDS ,aeDOWNWARDS ,",
   "aLEFTWARDS BLACK CIRCLED WHITE ARROW,aeUPWARDS ,aeRIGHTWARDS ,aeDOWNWARDS ,",
   "abANTICLOCKWISE TRIANGLE-HEADED RIGHT U-SHAPED ,ddBOTTOM ,ddLEFT ,ddTOP ,aRETURN LEFT,bRIGHT,",
   "aNEWLINE LEFT,bRIGHT,aFOUR CORNER ARROWS CIRCLING ANTICLOCKWISE,aRIGHTWARDS BLACK ARROW,",
   "2aSYMBOL FOR TYPE A ELECTRONICS,aTHREE-D TOP-LIGHTED LEFTWARDS EQUILATERAL ARROWHEAD,",
   "ccRIGHT-LIGHTED UPWARDS ,ccTOP-LIGHTED RIGHTWARDS ,ccLEFT-LIGHTED DOWNWARDS ,",
   "acBLACK LEFTWARDS ,bcUPWARDS ,bcRIGHTWARDS ,bcDOWNWARDS ,",
   "aDOWNWARDS TRIANGLE-HEADED ARROW WITH LONG TIP LEFTWARDS,hRIGHTWARDS,",
   "aUPWARDS TRIANGLE-HEADED ARROW WITH LONG TIP LEFTWARDS,hRIGHTWARDS,",
   "aLEFTWARDS TRIANGLE-HEADED ARROW WITH LONG TIP UPWARDS,ahRIGHTWARDS ,",
   "aLEFTWARDS TRIANGLE-HEADED ARROW WITH LONG TIP DOWNWARDS,ahRIGHTWARDS ,",
   "aBLACK CURVED DOWNWARDS AND LEFTWARDS ARROW,ebRIGHTWARDS ,cbUPWARDS AND LEFTWARDS ,",
   "ebRIGHTWARDS ,cbLEFTWARDS AND UPWARDS ,cdRIGHTWARDS ,cbLEFTWARDS AND DOWNWARDS ,cdRIGHTWARDS ,",
   "aRIBBON ARROW DOWN LEFT,dRIGHT,cUP LEFT,dRIGHT,cLEFT UP,cbRIGHT ,cLEFT DOWN,cbRIGHT ,",
   "aUPWARDS WHITE ARROW FROM BAR WITH HORIZONTAL BAR,aUP ARROWHEAD IN A RECTANGLE BOX,",
   "aOVERLAPPING WHITE SQUARES,cbAND BLACK ,bc,aBALLOT BOX WITH LIGHT X,abCIRCLED ,bbBOLD ,",
   "aBLACK SQUARE CENTRED,bbDIAMOND ,aTURNED BLACK PENTAGON,aHORIZONTAL BLACK OCTAGON,ac,",
   "bMEDIUM UP-POINTING TRIANGLE CENTRED,cdDOWN-,cdLEFT-,cdRIGHT-,aNEPTUNE FORM TWO,",
   "aTOP HALF BLACK CIRCLE,adBOTTOM ,aLIGHT FOUR POINTED BLACK CUSP,afROTATED ,",
   "abWHITE FOUR POINTED ,aeROTATED ,aSQUARE POSITION INDICATOR,aUNCERTAINTY SIGN,aGROUP MARK,",
   "aPLUTO FORM TWO,cTHREE,cFOUR,cFIVE,aTRANSPLUTO,aPROSERPINA,aASTRAEA,aHYGIEA,aPHOLUS,aNESSUS,",
   "aWHITE MOON SELENA,aBLACK DIAMOND ON CROSS,aTRUE LIGHT MOON ARTA,aCUPIDO,aHADES,aZEUS,aKRONOS,",
   "aAPOLLON,aADMETOS,aVULCANUS,aPOSEIDON,aLEFT HALF BLACK STAR,adRIGHT ,",
   "aSTAR WITH LEFT HALF BLACK,ccRIGHT ,aLEFTWARDS TWO-HEADED ARROW WITH TRIANGLE ARROWHEADS,",
   "agUPWARDS ,agRIGHTWARDS ,agDOWNWARDS ,aERIS FORM ONE,cTWO,aSEDNA,",
   "aRUSSIAN ASTROLOGICAL SYMBOL VIGINTILE,dNOVILE,dQUINTILE,dBINOVILE,dSENTAGON,dTREDECILE,",
   "aEQUALS SIGN WITH INFINITY BELOW,aUNITED SYMBOL,abSEPARATED ,abDOUBLED ,abPASSED ,",
   "aREVERSED RIGHT ANGLE,aHELLSCHREIBER PAUSE SYMBOL,aGLAGOLITIC CAPITAL LETTER AZU,dBUKY,dVEDE,",
   "dGLAGOLI,dDOBRO,dYESTU,dZHIVETE,dDZELO,dZEMLJA,dIZHE,dbINITIAL ,dI,dDJERVI,dKAKO,dLJUDIJE,",
   "dMYSLITE,dNASHI,dONU,dPOKOJI,dRITSI,dSLOVO,dTVRIDO,dUKU,dFRITU,dHERU,dOTU,dPE,dSHTA,dTSI,",
   "dCHRIVI,dSHA,dYERU,dYERI,dYATI,dSPIDERY HA,dYU,dSMALL YUS,eYUS WITH TAIL,dYO,",
   "dIOTATED SMALL YUS,dbBIG ,dcIOTATED ,dFITA,dIZHITSA,dSHTAPIC,dTROKUTASTI A,dLATINATE MYSLITE,",
   "dCAUDATE CHRIVI,bSMALL LETTER AZU,dBUKY,dVEDE,dGLAGOLI,dDOBRO,dYESTU,dZHIVETE,dDZELO,dZEMLJA,",
   "dIZHE,dbINITIAL ,dI,dDJERVI,dKAKO,dLJUDIJE,dMYSLITE,dNASHI,dONU,dPOKOJI,dRITSI,dSLOVO,dTVRIDO,",
   "dUKU,dFRITU,dHERU,dOTU,dPE,dSHTA,dTSI,dCHRIVI,dSHA,dYERU,dYERI,dYATI,dSPIDERY HA,dYU,",
   "dSMALL YUS,eYUS WITH TAIL,dYO,dIOTATED SMALL YUS,dbBIG ,dcIOTATED ,dFITA,dIZHITSA,dSHTAPIC,",
   "dTROKUTASTI A,dLATINATE MYSLITE,dCAUDATE CHRIVI,aLATIN CAPITAL LETTER L WITH DOUBLE BAR,",
   "bfSMALL ,bCAPITAL LETTER L WITH MIDDLE TILDE,dP WITH STROKE,dR WITH TAIL,",
   "bSMALL LETTER A WITH STROKE,dbT WITH DIAGONAL ,bCAPITAL LETTER H WITH DESCENDER,beSMALL ,",
   "bcCAPITAL LETTER K ,beSMALL ,bcCAPITAL LETTER Z ,beSMALL ,bCAPITAL LETTER ALPHA,dM WITH HOOK,",
   "dTURNED A,eALPHA,bSMALL LETTER V WITH RIGHT HOOK,bbCAPITAL LETTER W WITH ,beSMALL ,",
   "dV WITH CURL,bCAPITAL LETTER HALF H,bdSMALL ,dTAILLESS PHI,dE WITH NOTCH,dTURNED R WITH TAIL,",
   "dO WITH LOW RING INSIDE,bLETTER SMALL CAPITAL TURNED E,bSUBSCRIPT SMALL LETTER J,",
   "aMODIFIER LETTER CAPITAL V,aLATIN CAPITAL LETTER S WITH SWASH TAIL,ddZ ,",
   "aCOPTIC CAPITAL LETTER ALFA,bcSMALL ,bCAPITAL LETTER VIDA,bcSMALL ,bCAPITAL LETTER GAMMA,",
   "bcSMALL ,bCAPITAL LETTER DALDA,bcSMALL ,bCAPITAL LETTER EIE,bcSMALL ,bCAPITAL LETTER SOU,",
   "bcSMALL ,bCAPITAL LETTER ZATA,bcSMALL ,bCAPITAL LETTER HATE,bcSMALL ,bCAPITAL LETTER THETHE,",
   "bcSMALL ,bCAPITAL LETTER IAUDA,bcSMALL ,bCAPITAL LETTER KAPA,bcSMALL ,bCAPITAL LETTER LAULA,",
   "bcSMALL ,bCAPITAL LETTER MI,bcSMALL ,bCAPITAL LETTER NI,bcSMALL ,bCAPITAL LETTER KSI,bcSMALL ,",
   "bCAPITAL LETTER O,bcSMALL ,bCAPITAL LETTER PI,bcSMALL ,bCAPITAL LETTER RO,bcSMALL ,",
   "bCAPITAL LETTER SIMA,bcSMALL ,bCAPITAL LETTER TAU,bcSMALL ,bCAPITAL LETTER UA,bcSMALL ,",
   "bCAPITAL LETTER FI,bcSMALL ,bCAPITAL LETTER KHI,bcSMALL ,bCAPITAL LETTER PSI,bcSMALL ,",
   "bCAPITAL LETTER OOU,bcSMALL ,bCAPITAL LETTER DIALECT-P ALEF,beSMALL ,",
   "bCAPITAL LETTER OLD COPTIC AIN,beSMALL ,bCAPITAL LETTER CRYPTOGRAMMIC EIE,bdSMALL ,",
   "bCAPITAL LETTER DIALECT-P KAPA,beSMALL ,bCAPITAL LETTER DIALECT-P NI,beSMALL ,",
   "bbCAPITAL LETTER CRYPTOGRAMMIC ,bdSMALL ,bCAPITAL LETTER OLD COPTIC OOU,beSMALL ,",
   "bCAPITAL LETTER SAMPI,bcSMALL ,bCAPITAL LETTER CROSSED SHEI,bdSMALL ,",
   "bbCAPITAL LETTER OLD COPTIC ,beSMALL ,bCAPITAL LETTER OLD COPTIC ESH,beSMALL ,",
   "bCAPITAL LETTER AKHMIMIC KHEI,bdSMALL ,bCAPITAL LETTER DIALECT-P HORI,beSMALL ,",
   "bbCAPITAL LETTER OLD COPTIC ,beSMALL ,bCAPITAL LETTER OLD COPTIC HA,beSMALL ,",
   "bbCAPITAL LETTER L-SHAPED ,beSMALL ,bCAPITAL LETTER OLD COPTIC HEI,beSMALL ,",
   "bCAPITAL LETTER OLD COPTIC HAT,beSMALL ,bCAPITAL LETTER OLD COPTIC GANGIA,beSMALL ,",
   "bCAPITAL LETTER OLD COPTIC DJA,beSMALL ,bCAPITAL LETTER OLD COPTIC SHIMA,beSMALL ,",
   "bbCAPITAL LETTER OLD NUBIAN ,beSMALL ,bCAPITAL LETTER OLD NUBIAN NGI,beSMALL ,",
   "bCAPITAL LETTER OLD NUBIAN NYI,beSMALL ,bCAPITAL LETTER OLD NUBIAN WAU,beSMALL ,bSYMBOL KAI,",
   "cMI RO,cbPI ,cSTAUROS,cTAU RO,cbKHI ,cSHIMA SIMA,bCAPITAL LETTER CRYPTOGRAMMIC SHEI,bdSMALL ,",
   "bCAPITAL LETTER CRYPTOGRAMMIC GANGIA,bdSMALL ,bCOMBINING NI ABOVE,cSPIRITUS ASPER,dLENIS,",
   "bCAPITAL LETTER BOHAIRIC KHEI,bdSMALL ,6bOLD NUBIAN FULL STOP,dDIRECT QUESTION MARK,",
   "dcINDIRECT ,dVERSE DIVIDER,bFRACTION ONE HALF,bFULL STOP,bMORPHOLOGICAL DIVIDER,",
   "aGEORGIAN SMALL LETTER AN,dBAN,dGAN,dDON,dEN,dVIN,dZEN,dTAN,dIN,dKAN,dLAS,dMAN,dNAR,dON,dPAR,",
   "dZHAR,dRAE,dSAN,dTAR,dUN,dPHAR,dKHAR,dGHAN,dQAR,dSHIN,dCHIN,dCAN,dJIL,dCIL,dCHAR,dXAN,dJHAN,",
   "dHAE,dHE,dHIE,dWE,dHAR,dHOE,2dYN,6dAEN,3aTIFINAGH LETTER YA,cYAB,cYABH,cYAG,cYAGHH,",
   "cBERBER ACADEMY YAJ,cb,cYAD,cYADH,cYADD,cYADDH,cYEY,cYAF,cYAK,cbTUAREG ,cYAKHH,cYAH,",
   "cbBERBER ACADEMY ,cbTUAREG ,cYAHH,cYAA,cYAKH,cbTUAREG ,cYAQ,cbTUAREG ,cYI,cYAZH,cbAHAGGAR ,",
   "cbTUAREG ,cYAL,cYAM,cYAN,cTUAREG YAGN,dYANG,cYAP,cYU,cYAR,cYARR,cYAGH,cbTUAREG ,cbAYER ,cYAS,",
   "cYASS,cYASH,cYAT,cYATH,cYACH,cYATT,cYAV,cYAW,cYAY,cYAZ,cbTAWELLEMET ,cYAZZ,cYE,cYO,",
   "8bMODIFIER LETTER LABIALIZATION MARK,bbSEPARATOR ,FbCONSONANT JOINER,aETHIOPIC SYLLABLE LOA,",
   "cMOA,cROA,cSOA,cSHOA,cBOA,cTOA,cCOA,cNOA,cNYOA,cGLOTTAL OA,cZOA,cDOA,cDDOA,cJOA,cTHOA,cCHOA,",
   "cPHOA,cPOA,cGGWA,cGGWI,cGGWEE,cGGWE,AcSSA,cSSU,cSSI,cSSAA,cSSEE,cSSE,cSSO,2cCCA,cCCU,cCCI,",
   "cCCAA,cCCEE,cCCE,cCCO,2cZZA,cZZU,cZZI,cZZAA,cZZEE,cZZE,cZZO,2cCCHA,cCCHU,cCCHI,cCCHAA,cCCHEE,",
   "cCCHE,cCCHO,2cQYA,cQYU,cQYI,cQYAA,cQYEE,cQYE,cQYO,2cKYA,cKYU,cKYI,cKYAA,cKYEE,cKYE,cKYO,2cXYA,",
   "cXYU,cXYI,cXYAA,cXYEE,cXYE,cXYO,2cGYA,cGYU,cGYI,cGYAA,cGYEE,cGYE,cGYO,",
   "2aCOMBINING CYRILLIC LETTER BE,dVE,dGHE,dDE,dZHE,dZE,dKA,dEL,dEM,dEN,dO,dPE,dER,dES,dTE,dHA,",
   "dTSE,dCHE,dSHA,dSHCHA,dFITA,dES-TE,dA,dIE,dDJERV,dMONOGRAPH UK,dYAT,dYU,dIOTIFIED A,",
   "dLITTLE YUS,dbBIG ,dcIOTIFIED ,aRIGHT ANGLE SUBSTITUTION MARKER,ccDOTTED ,",
   "aLEFT SUBSTITUTION BRACKET,acRIGHT ,acLEFT DOTTED ,adRIGHT ,aRAISED INTERPOLATION MARKER,",
   "bcDOTTED ,abDOTTED TRANSPOSITION ,aLEFT TRANSPOSITION BRACKET,acRIGHT ,aRAISED SQUARE,",
   "aLEFT RAISED OMISSION BRACKET,adRIGHT ,aEDITORIAL CORONIS,aPARAGRAPHOS,abFORKED ,acREVERSED ,",
   "aHYPODIASTOLE,aDOTTED OBELOS,aDOWNWARDS ANCORA,abUPWARDS ,aDOTTED RIGHT-POINTING ANGLE,",
   "aDOUBLE OBLIQUE HYPHEN,aINVERTED INTERROBANG,aPALM BRANCH,aHYPHEN WITH DIAERESIS,",
   "aTILDE WITH RING ABOVE,aLEFT LOW PARAPHRASE BRACKET,adRIGHT ,aTILDE WITH DOT ABOVE,dBELOW,",
   "aLEFT VERTICAL BAR WITH QUILL,aeRIGHT ,aTOP LEFT HALF BRACKET,bcRIGHT ,acBOTTOM LEFT ,",
   "bcRIGHT ,abLEFT SIDEWAYS U ,adRIGHT ,aLEFT DOUBLE PARENTHESIS,acRIGHT ,",
   "aTWO DOTS OVER ONE DOT PUNCTUATION,abONE DOT OVER TWO DOTS ,abSQUARED FOUR DOT ,",
   "aFIVE DOT MARK,abREVERSED QUESTION ,aVERTICAL TILDE,aRING POINT,aWORD SEPARATOR MIDDLE DOT,",
   "aTURNED COMMA,aRAISED DOT,bCOMMA,aTURNED SEMICOLON,aDAGGER WITH LEFT GUARD,cbRIGHT ,",
   "aTURNED DAGGER,aTOP HALF SECTION SIGN,aTWO-EM DASH,acTHREE-,aSTENOGRAPHIC FULL STOP,",
   "aVERTICAL SIX DOTS,aWIGGLY VERTICAL LINE,aCAPITULUM,aDOUBLE HYPHEN,aREVERSED COMMA,",
   "aDOUBLE LOW-REVERSED-9 QUOTATION MARK,aDASH WITH LEFT UPTURN,aDOUBLE SUSPENSION MARK,",
   "aINVERTED LOW KAVYKA,cKAVYKA WITH KAVYKA ABOVE,aLOW KAVYKA,bKAVYKA WITH DOT,",
   "aDOUBLE STACKED COMMA,aDOTTED SOLIDUS,aTRIPLE DAGGER,aMEDIEVAL COMMA,aPARAGRAPHUS MARK,",
   "abPUNCTUS ELEVATUS ,aCORNISH VERSE DIVIDER,aCROSS PATTY WITH RIGHT CROSSBAR,dbLEFT ,",
   "aTIRONIAN SIGN CAPITAL ET,aMEDIEVAL EXCLAMATION MARK,bbQUESTION ,",
   "aLEFT SQUARE BRACKET WITH STROKE,aeRIGHT ,abLEFT SQUARE BRACKET WITH DOUBLE ,afRIGHT ,",
   "aTOP HALF LEFT PARENTHESIS,cbRIGHT ,abBOTTOM HALF LEFT ,cbRIGHT ,aOBLIQUE HYPHEN,"]

end EnumCodec.Text
