/-!
# Names of characters from U+2000 to U+27FF

The lines are read by `Reconcile.Text.CharName`.
-/

namespace Reconcile.Text.CharName

/-- The names of the characters from U+2000 to U+27FF. -/
def namesFrom2000 : List String :=
  [
    "=2000aEN QUAD,bM QUAD,bN SPACE,bM SPACE,aTHREE-PER-EM SPACE,aFOUR-PER-EM SPACE",
    "aSIX-PER-EM SPACE,aFIGURE SPACE,aPUNCTUATION SPACE,aTHIN SPACE,aHAIR SPACE,aZERO WIDTH SPACE",
    "lNON-JOINER,lJOINER,aLEFT-TO-RIGHT MARK,aRIGHT-TO-LEFT MARK,aHYPHEN,aNON-BREAKING HYPHEN",
    "aFIGURE DASH,aEN DASH,bM DASH,aHORIZONTAL BAR,aDOUBLE VERTICAL LINE,hLOW LINE",
    "aLEFT SINGLE QUOTATION MARK,aRIGHT SINGLE QUOTATION MARK,aSINGLE LOW-9 QUOTATION MARK",
    "hHIGH-REVERSED-9 QUOTATION MARK,aLEFT DOUBLE QUOTATION MARK,aRIGHT DOUBLE QUOTATION MARK",
    "aDOUBLE LOW-9 QUOTATION MARK,hHIGH-REVERSED-9 QUOTATION MARK,bAGGER,bOUBLE DAGGER,aBULLET",
    "aTRIANGULAR BULLET,aONE DOT LEADER,aTWO DOT LEADER,aHORIZONTAL ELLIPSIS,bYPHENATION POINT",
    "aLINE SEPARATOR,aPARAGRAPH SEPARATOR,aLEFT-TO-RIGHT EMBEDDING,aRIGHT-TO-LEFT EMBEDDING",
    "aPOP DIRECTIONAL FORMATTING,aLEFT-TO-RIGHT OVERRIDE,aRIGHT-TO-LEFT OVERRIDE",
    "aNARROW NO-BREAK SPACE,aPER MILLE SIGN,eTEN THOUSAND SIGN,bRIME,aDOUBLE PRIME,aTRIPLE PRIME",
    "aREVERSED PRIME,jDOUBLE PRIME,jTRIPLE PRIME,aCARET,aSINGLE LEFT-POINTING ANGLE QUOTATION MARK",
    "hRIGHT-POINTING ANGLE QUOTATION MARK,aREFERENCE MARK,aDOUBLE EXCLAMATION MARK,aINTERROBANG",
    "aOVERLINE,aUNDERTIE,aCHARACTER TIE,bARET INSERTION POINT,aASTERISM,aHYPHEN BULLET",
    "aFRACTION SLASH,aLEFT SQUARE BRACKET WITH QUILL,aRIGHT SQUARE BRACKET WITH QUILL",
    "aDOUBLE QUESTION MARK,aQUESTION EXCLAMATION MARK,aEXCLAMATION QUESTION MARK,aTIRONIAN SIGN ET",
    "aREVERSED PILCROW SIGN,aBLACK LEFTWARDS BULLET,gRIGHTWARDS BULLET,aLOW ASTERISK",
    "aREVERSED SEMICOLON,aCLOSE UP,aTWO ASTERISKS ALIGNED VERTICALLY,aCOMMERCIAL MINUS SIGN",
    "aSWUNG DASH,aINVERTED UNDERTIE,aFLOWER PUNCTUATION MARK,aTHREE DOT PUNCTUATION",
    "aQUADRUPLE PRIME,aFOUR DOT PUNCTUATION,bIVE DOT PUNCTUATION,aTWO DOT PUNCTUATION",
    "aFOUR DOT MARK,aDOTTED CROSS,aTRICOLON,aVERTICAL FOUR DOTS,aMEDIUM MATHEMATICAL SPACE",
    "aWORD JOINER,aFUNCTION APPLICATION,aINVISIBLE TIMES,kSEPARATOR,kPLUS",
    "=2066aLEFT-TO-RIGHT ISOLATE,aRIGHT-TO-LEFT ISOLATE,aFIRST STRONG ISOLATE",
    "aPOP DIRECTIONAL ISOLATE,aINHIBIT SYMMETRIC SWAPPING,aACTIVATE SYMMETRIC SWAPPING",
    "aINHIBIT ARABIC FORM SHAPING,aACTIVATE ARABIC FORM SHAPING,aNATIONAL DIGIT SHAPES",
    "bOMINAL DIGIT SHAPES,aSUPERSCRIPT ZERO,mLATIN SMALL LETTER I,=2074mFOUR,nIVE,mSIX,nEVEN,mEIGHT",
    "mNINE,mPLUS SIGN,mMINUS,mEQUALS SIGN,mLEFT PARENTHESIS,mRIGHT PARENTHESIS",
    "mLATIN SMALL LETTER N,cBSCRIPT ZERO,kONE,kTWO,lHREE,kFOUR,lIVE,kSIX,lEVEN,kEIGHT,kNINE",
    "kPLUS SIGN,kMINUS,kEQUALS SIGN,kLEFT PARENTHESIS,kRIGHT PARENTHESIS",
    "=2090aLATIN SUBSCRIPT SMALL LETTER A,zeE,zeO,zeX,zeSCHWA,zeH,zeK,zeL,zeM,zeN,zeP,zeS,zeT",
    "=20A0aEURO-CURRENCY SIGN,aCOLON SIGN,bRUZEIRO SIGN,aFRENCH FRANC SIGN,aLIRA SIGN,aMILL SIGN",
    "aNAIRA SIGN,aPESETA SIGN,aRUPEE SIGN,aWON SIGN,aNEW SHEQEL SIGN,aDONG SIGN,aEURO SIGN",
    "aKIP SIGN,aTUGRIK SIGN,aDRACHMA SIGN,aGERMAN PENNY SIGN,aPESO SIGN,aGUARANI SIGN,aAUSTRAL SIGN",
    "aHRYVNIA SIGN,aCEDI SIGN,aLIVRE TOURNOIS SIGN,aSPESMILO SIGN,aTENGE SIGN,aINDIAN RUPEE SIGN",
    "aTURKISH LIRA SIGN,aNORDIC MARK SIGN,aMANAT SIGN,aRUBLE SIGN,aLARI SIGN,aBITCOIN SIGN",
    "aSOM SIGN,=20D0aCOMBINING LEFT HARPOON ABOVE,kRIGHT HARPOON ABOVE,kLONG VERTICAL LINE OVERLAY",
    "kSHORT VERTICAL LINE OVERLAY,kANTICLOCKWISE ARROW ABOVE,kCLOCKWISE ARROW ABOVE",
    "kLEFT ARROW ABOVE,kRIGHT ARROW ABOVE,mNG OVERLAY,kCLOCKWISE RING OVERLAY",
    "kANTICLOCKWISE RING OVERLAY,kTHREE DOTS ABOVE,kFOUR DOTS ABOVE,kENCLOSING CIRCLE,uSQUARE",
    "uDIAMOND,uCIRCLE BACKSLASH,kLEFT RIGHT ARROW ABOVE,kENCLOSING SCREEN,uKEYCAP",
    "uUPWARD POINTING TRIANGLE,kREVERSE SOLIDUS OVERLAY,kDOUBLE VERTICAL STROKE OVERLAY",
    "kANNUITY SYMBOL,kTRIPLE UNDERDOT,kWIDE BRIDGE ABOVE,kLEFTWARDS ARROW OVERLAY",
    "lONG DOUBLE SOLIDUS OVERLAY,kRIGHTWARDS HARPOON WITH BARB DOWNWARDS",
    "kLEFTWARDS HARPOON WITH BARB DOWNWARDS,o ARROW BELOW,kRIGHT ARROW BELOW,kASTERISK ABOVE",
    "=2100aACCOUNT OF,bDDRESSED TO THE SUBJECT,aDOUBLE-STRUCK CAPITAL C,bEGREE CELSIUS",
    "aCENTRE LINE SYMBOL,bARE OF,cDA UNA,aEULER CONSTANT,aSCRUPLE,aDEGREE FAHRENHEIT",
    "aSCRIPT SMALL G,hCAPITAL H,aBLACK-LETTER CAPITAL H,aDOUBLE-STRUCK CAPITAL H,aPLANCK CONSTANT",
    "p OVER TWO PI,aSCRIPT CAPITAL I,aBLACK-LETTER CAPITAL I,aSCRIPT CAPITAL L,hSMALL L",
    "aL B BAR SYMBOL,aDOUBLE-STRUCK CAPITAL N,aNUMERO SIGN,aSOUND RECORDING COPYRIGHT",
    "bCRIPT CAPITAL P,aDOUBLE-STRUCK CAPITAL P,wQ,aSCRIPT CAPITAL R,aBLACK-LETTER CAPITAL R",
    "aDOUBLE-STRUCK CAPITAL R,aPRESCRIPTION TAKE,aRESPONSE,aSERVICE MARK,aTELEPHONE SIGN",
    "bRADE MARK SIGN,aVERSICLE,aDOUBLE-STRUCK CAPITAL Z,aOUNCE SIGN,bHM SIGN,aINVERTED OHM SIGN",
    "aBLACK-LETTER CAPITAL Z,aTURNED GREEK SMALL LETTER IOTA,aKELVIN SIGN,aANGSTROM SIGN",
    "aSCRIPT CAPITAL B,aBLACK-LETTER CAPITAL C,aESTIMATED SYMBOL,aSCRIPT SMALL E,hCAPITAL E,pF",
    "aTURNED CAPITAL F,aSCRIPT CAPITAL M,hSMALL O,aALEF SYMBOL,aBET SYMBOL,aGIMEL SYMBOL",
    "aDALET SYMBOL,aINFORMATION SOURCE,aROTATED CAPITAL Q,aFACSIMILE SIGN,aDOUBLE-STRUCK SMALL PI",
    "uGAMMA,oCAPITAL GAMMA,wPI,oN-ARY SUMMATION,aTURNED SANS-SERIF CAPITAL G,zbL",
    "aREVERSED SANS-SERIF CAPITAL L,aTURNED SANS-SERIF CAPITAL Y,aDOUBLE-STRUCK ITALIC CAPITAL D",
    "vSMALL D,zcE,zcI,zcJ,aPROPERTY LINE,aTURNED AMPERSAND,aPER SIGN,aAKTIESELSKAB,aTURNED SMALL F",
    "aSYMBOL FOR SAMARITAN SOURCE,aVULGAR FRACTION ONE SEVENTH,uNINTH,uTENTH,vHIRD,qTWO THIRDS",
    "qONE FIFTH,qTWO FIFTHS,rHREE FIFTHS,qFOUR FIFTHS,qONE SIXTH,qFIVE SIXTHS,qONE EIGHTH",
    "qTHREE EIGHTHS,qFIVE EIGHTHS,qSEVEN EIGHTHS,aFRACTION NUMERATOR ONE,aROMAN NUMERAL ONE,oTWO",
    "pHREE,oFOUR,pIVE,oSIX,pEVEN,oEIGHT,oNINE,oTEN,oELEVEN,oTWELVE,oFIFTY,oONE HUNDRED",
    "oFIVE HUNDRED,oONE THOUSAND,aSMALL ROMAN NUMERAL ONE,uTWO,vHREE,uFOUR,vIVE,uSIX,vEVEN,uEIGHT",
    "uNINE,uTEN,uELEVEN,uTWELVE,uFIFTY,uONE HUNDRED,uFIVE HUNDRED,uONE THOUSAND",
    "aROMAN NUMERAL ONE THOUSAND C D,oFIVE THOUSAND,oTEN THOUSAND,oREVERSED ONE HUNDRED",
    "aLATIN SMALL LETTER REVERSED C,aROMAN NUMERAL SIX LATE FORM,oFIFTY EARLY FORM,uTHOUSAND",
    "oONE HUNDRED THOUSAND,aVULGAR FRACTION ZERO THIRDS,aTURNED DIGIT TWO,oHREE",
    "=2190aLEFTWARDS ARROW,aUPWARDS ARROW,aRIGHTWARDS ARROW,aDOWNWARDS ARROW,aLEFT RIGHT ARROW",
    "aUP DOWN ARROW,aNORTH WEST ARROW,gEAST ARROW,aSOUTH EAST ARROW,gWEST ARROW",
    "aLEFTWARDS ARROW WITH STROKE,aRIGHTWARDS ARROW WITH STROKE,aLEFTWARDS WAVE ARROW",
    "aRIGHTWARDS WAVE ARROW,aLEFTWARDS TWO HEADED ARROW,aUPWARDS TWO HEADED ARROW",
    "aRIGHTWARDS TWO HEADED ARROW,aDOWNWARDS TWO HEADED ARROW,aLEFTWARDS ARROW WITH TAIL",
    "aRIGHTWARDS ARROW WITH TAIL,aLEFTWARDS ARROW FROM BAR,aUPWARDS ARROW FROM BAR",
    "aRIGHTWARDS ARROW FROM BAR,aDOWNWARDS ARROW FROM BAR,aUP DOWN ARROW WITH BASE",
    "aLEFTWARDS ARROW WITH HOOK,aRIGHTWARDS ARROW WITH HOOK,aLEFTWARDS ARROW WITH LOOP",
    "aRIGHTWARDS ARROW WITH LOOP,aLEFT RIGHT WAVE ARROW,lARROW WITH STROKE,aDOWNWARDS ZIGZAG ARROW",
    "aUPWARDS ARROW WITH TIP LEFTWARDS,xRIGHTWARDS,aDOWNWARDS ARROW WITH TIP LEFTWARDS,zRIGHTWARDS",
    "aRIGHTWARDS ARROW WITH CORNER DOWNWARDS,aDOWNWARDS ARROW WITH CORNER LEFTWARDS",
    "aANTICLOCKWISE TOP SEMICIRCLE ARROW,aCLOCKWISE TOP SEMICIRCLE ARROW",
    "aNORTH WEST ARROW TO LONG BAR,aLEFTWARDS ARROW TO BAR OVER RIGHTWARDS ARROW TO BAR",
    "aANTICLOCKWISE OPEN CIRCLE ARROW,aCLOCKWISE OPEN CIRCLE ARROW",
    "aLEFTWARDS HARPOON WITH BARB UPWARDS,zdDOWNWARDS,aUPWARDS HARPOON WITH BARB RIGHTWARDS",
    "zbLEFTWARDS,aRIGHTWARDS HARPOON WITH BARB UPWARDS,zeDOWNWARDS",
    "aDOWNWARDS HARPOON WITH BARB RIGHTWARDS,zdLEFTWARDS,aRIGHTWARDS ARROW OVER LEFTWARDS ARROW",
    "aUPWARDS ARROW LEFTWARDS OF DOWNWARDS ARROW,aLEFTWARDS ARROW OVER RIGHTWARDS ARROW",
    "kPAIRED ARROWS,aUPWARDS PAIRED ARROWS,aRIGHTWARDS PAIRED ARROWS,aDOWNWARDS PAIRED ARROWS",
    "aLEFTWARDS HARPOON OVER RIGHTWARDS HARPOON,aRIGHTWARDS HARPOON OVER LEFTWARDS HARPOON",
    "aLEFTWARDS DOUBLE ARROW WITH STROKE,e RIGHT DOUBLE ARROW WITH STROKE",
    "aRIGHTWARDS DOUBLE ARROW WITH STROKE,aLEFTWARDS DOUBLE ARROW,aUPWARDS DOUBLE ARROW",
    "aRIGHTWARDS DOUBLE ARROW,aDOWNWARDS DOUBLE ARROW,aLEFT RIGHT DOUBLE ARROW",
    "aUP DOWN DOUBLE ARROW,aNORTH WEST DOUBLE ARROW,gEAST DOUBLE ARROW,aSOUTH EAST DOUBLE ARROW",
    "gWEST DOUBLE ARROW,aLEFTWARDS TRIPLE ARROW,aRIGHTWARDS TRIPLE ARROW,aLEFTWARDS SQUIGGLE ARROW",
    "aRIGHTWARDS SQUIGGLE ARROW,aUPWARDS ARROW WITH DOUBLE STROKE",
    "aDOWNWARDS ARROW WITH DOUBLE STROKE,aLEFTWARDS DASHED ARROW,aUPWARDS DASHED ARROW",
    "aRIGHTWARDS DASHED ARROW,aDOWNWARDS DASHED ARROW,aLEFTWARDS ARROW TO BAR",
    "aRIGHTWARDS ARROW TO BAR,aLEFTWARDS WHITE ARROW,aUPWARDS WHITE ARROW,aRIGHTWARDS WHITE ARROW",
    "aDOWNWARDS WHITE ARROW,aUPWARDS WHITE ARROW FROM BAR,uON PEDESTAL,zg WITH HORIZONTAL BAR",
    "zmVERTICAL BAR,oDOUBLE ARROW,zb ON PEDESTAL,aRIGHTWARDS WHITE ARROW FROM WALL",
    "aNORTH WEST ARROW TO CORNER,aSOUTH EAST ARROW TO CORNER,aUP DOWN WHITE ARROW",
    "aRIGHT ARROW WITH SMALL CIRCLE,aDOWNWARDS ARROW LEFTWARDS OF UPWARDS ARROW",
    "aTHREE RIGHTWARDS ARROWS,aLEFTWARDS ARROW WITH VERTICAL STROKE",
    "aRIGHTWARDS ARROW WITH VERTICAL STROKE,aLEFT RIGHT ARROW WITH VERTICAL STROKE",
    "eWARDS ARROW WITH DOUBLE VERTICAL STROKE,aRIGHTWARDS ARROW WITH DOUBLE VERTICAL STROKE",
    "aLEFT RIGHT ARROW WITH DOUBLE VERTICAL STROKE,eWARDS OPEN-HEADED ARROW",
    "aRIGHTWARDS OPEN-HEADED ARROW,aLEFT RIGHT OPEN-HEADED ARROW,aFOR ALL,aCOMPLEMENT",
    "aPARTIAL DIFFERENTIAL,aTHERE EXISTS,gDOES NOT EXIST,aEMPTY SET,aINCREMENT,aNABLA,aELEMENT OF",
    "aNOT AN ELEMENT OF,aSMALL ELEMENT OF,aCONTAINS AS MEMBER,aDOES NOT CONTAIN AS MEMBER",
    "aSMALL CONTAINS AS MEMBER,aEND OF PROOF,aN-ARY PRODUCT,gCOPRODUCT,gSUMMATION,aMINUS SIGN",
    "f-OR-PLUS SIGN,aDOT PLUS,bIVISION SLASH,aSET MINUS,aASTERISK OPERATOR,aRING OPERATOR",
    "aBULLET OPERATOR,aSQUARE ROOT,aCUBE ROOT,aFOURTH ROOT,aPROPORTIONAL TO,aINFINITY,aRIGHT ANGLE",
    "aANGLE,aMEASURED ANGLE,aSPHERICAL ANGLE,aDIVIDES,bOES NOT DIVIDE,aPARALLEL TO,aNOT PARALLEL TO",
    "aLOGICAL AND,iOR,aINTERSECTION,aUNION,aINTEGRAL,aDOUBLE INTEGRAL,aTRIPLE INTEGRAL",
    "aCONTOUR INTEGRAL,aSURFACE INTEGRAL,aVOLUME INTEGRAL,aCLOCKWISE INTEGRAL,kCONTOUR INTEGRAL",
    "aANTICLOCKWISE CONTOUR INTEGRAL,aTHEREFORE,aBECAUSE,aRATIO,aPROPORTION,aDOT MINUS,aEXCESS",
    "aGEOMETRIC PROPORTION,aHOMOTHETIC,aTILDE OPERATOR,aREVERSED TILDE,aINVERTED LAZY S,aSINE WAVE",
    "aWREATH PRODUCT,aNOT TILDE,aMINUS TILDE,aASYMPTOTICALLY EQUAL TO,aNOT ASYMPTOTICALLY EQUAL TO",
    "aAPPROXIMATELY EQUAL TO,oBUT NOT ACTUALLY EQUAL TO",
    "aNEITHER APPROXIMATELY NOR ACTUALLY EQUAL TO,aALMOST EQUAL TO,aNOT ALMOST EQUAL TO",
    "aALMOST EQUAL OR EQUAL TO,aTRIPLE TILDE,aALL EQUAL TO,aEQUIVALENT TO",
    "aGEOMETRICALLY EQUIVALENT TO,aDIFFERENCE BETWEEN,aAPPROACHES THE LIMIT,aGEOMETRICALLY EQUAL TO",
    "aAPPROXIMATELY EQUAL TO OR THE IMAGE OF,aIMAGE OF OR APPROXIMATELY EQUAL TO,aCOLON EQUALS",
    "aEQUALS COLON,aRING IN EQUAL TO,fEQUAL TO,aCORRESPONDS TO,aESTIMATES,bQUIANGULAR TO",
    "aSTAR EQUALS,aDELTA EQUAL TO,aEQUAL TO BY DEFINITION,aMEASURED BY,aQUESTIONED EQUAL TO",
    "aNOT EQUAL TO,aIDENTICAL TO,aNOT IDENTICAL TO,aSTRICTLY EQUIVALENT TO,aLESS-THAN OR EQUAL TO",
    "aGREATER-THAN OR EQUAL TO,aLESS-THAN OVER EQUAL TO,aGREATER-THAN OVER EQUAL TO",
    "aLESS-THAN BUT NOT EQUAL TO,aGREATER-THAN BUT NOT EQUAL TO,aMUCH LESS-THAN,fGREATER-THAN",
    "aBETWEEN,aNOT EQUIVALENT TO,eLESS-THAN,eGREATER-THAN,bEITHER LESS-THAN NOR EQUAL TO",
    "iGREATER-THAN NOR EQUAL TO,aLESS-THAN OR EQUIVALENT TO,aGREATER-THAN OR EQUIVALENT TO",
    "aNEITHER LESS-THAN NOR EQUIVALENT TO,iGREATER-THAN NOR EQUIVALENT TO",
    "aLESS-THAN OR GREATER-THAN,aGREATER-THAN OR LESS-THAN,aNEITHER LESS-THAN NOR GREATER-THAN",
    "iGREATER-THAN NOR LESS-THAN,aPRECEDES,aSUCCEEDS,aPRECEDES OR EQUAL TO,aSUCCEEDS OR EQUAL TO",
    "aPRECEDES OR EQUIVALENT TO,aSUCCEEDS OR EQUIVALENT TO,aDOES NOT PRECEDE,jSUCCEED,aSUBSET OF",
    "cPERSET OF,aNOT A SUBSET OF,iPERSET OF,aSUBSET OF OR EQUAL TO,cPERSET OF OR EQUAL TO",
    "aNEITHER A SUBSET OF NOR EQUAL TO,mPERSET OF NOR EQUAL TO,aSUBSET OF WITH NOT EQUAL TO",
    "cPERSET OF WITH NOT EQUAL TO,aMULTISET,i MULTIPLICATION,jUNION,aSQUARE IMAGE OF,hORIGINAL OF",
    "hIMAGE OF OR EQUAL TO,hORIGINAL OF OR EQUAL TO,hCAP,iUP,aCIRCLED PLUS,iMINUS,iTIMES",
    "iDIVISION SLASH,jOT OPERATOR,iRING OPERATOR,iASTERISK OPERATOR,iEQUALS,iDASH,aSQUARED PLUS",
    "iMINUS,iTIMES,iDOT OPERATOR,aRIGHT TACK,aLEFT TACK,aDOWN TACK,aUP TACK,aASSERTION,aMODELS",
    "aTRUE,aFORCES,aTRIPLE VERTICAL BAR RIGHT TURNSTILE,aDOUBLE VERTICAL BAR DOUBLE RIGHT TURNSTILE",
    "cES NOT PROVE,aNOT TRUE,aDOES NOT FORCE,aNEGATED DOUBLE VERTICAL BAR DOUBLE RIGHT TURNSTILE",
    "aPRECEDES UNDER RELATION,aSUCCEEDS UNDER RELATION,aNORMAL SUBGROUP OF",
    "aCONTAINS AS NORMAL SUBGROUP,aNORMAL SUBGROUP OF OR EQUAL TO",
    "aCONTAINS AS NORMAL SUBGROUP OR EQUAL TO,aORIGINAL OF,aIMAGE OF,aMULTIMAP",
    "aHERMITIAN CONJUGATE MATRIX,aINTERCALATE,aXOR,aNAND,bOR,aRIGHT ANGLE WITH ARC,gTRIANGLE",
    "aN-ARY LOGICAL AND,oOR,gINTERSECTION,gUNION,aDIAMOND OPERATOR,bOT OPERATOR,aSTAR OPERATOR",
    "aDIVISION TIMES,aBOWTIE,aLEFT NORMAL FACTOR SEMIDIRECT PRODUCT",
    "aRIGHT NORMAL FACTOR SEMIDIRECT PRODUCT,aLEFT SEMIDIRECT PRODUCT,aRIGHT SEMIDIRECT PRODUCT",
    "bEVERSED TILDE EQUALS,aCURLY LOGICAL OR,oAND,aDOUBLE SUBSET,jPERSET,hINTERSECTION,hUNION",
    "aPITCHFORK,aEQUAL AND PARALLEL TO,aLESS-THAN WITH DOT,aGREATER-THAN WITH DOT",
    "aVERY MUCH LESS-THAN,kGREATER-THAN,aLESS-THAN EQUAL TO OR GREATER-THAN",
    "aGREATER-THAN EQUAL TO OR LESS-THAN,aEQUAL TO OR LESS-THAN,mGREATER-THAN,mPRECEDES,mSUCCEEDS",
    "aDOES NOT PRECEDE OR EQUAL,jSUCCEED OR EQUAL,aNOT SQUARE IMAGE OF OR EQUAL TO",
    "lORIGINAL OF OR EQUAL TO,aSQUARE IMAGE OF OR NOT EQUAL TO,hORIGINAL OF OR NOT EQUAL TO",
    "aLESS-THAN BUT NOT EQUIVALENT TO,aGREATER-THAN BUT NOT EQUIVALENT TO",
    "aPRECEDES BUT NOT EQUIVALENT TO,aSUCCEEDS BUT NOT EQUIVALENT TO,aNOT NORMAL SUBGROUP OF",
    "aDOES NOT CONTAIN AS NORMAL SUBGROUP,aNOT NORMAL SUBGROUP OF OR EQUAL TO",
    "aDOES NOT CONTAIN AS NORMAL SUBGROUP OR EQUAL,aVERTICAL ELLIPSIS,aMIDLINE HORIZONTAL ELLIPSIS",
    "aUP RIGHT DIAGONAL ELLIPSIS,aDOWN RIGHT DIAGONAL ELLIPSIS",
    "aELEMENT OF WITH LONG HORIZONTAL STROKE,qVERTICAL BAR AT END OF HORIZONTAL STROKE",
    "aSMALL ELEMENT OF WITH VERTICAL BAR AT END OF HORIZONTAL STROKE,aELEMENT OF WITH DOT ABOVE",
    "qOVERBAR,aSMALL ELEMENT OF WITH OVERBAR,aELEMENT OF WITH UNDERBAR,qTWO HORIZONTAL STROKES",
    "aCONTAINS WITH LONG HORIZONTAL STROKE,oVERTICAL BAR AT END OF HORIZONTAL STROKE",
    "aSMALL CONTAINS WITH VERTICAL BAR AT END OF HORIZONTAL STROKE,aCONTAINS WITH OVERBAR",
    "aSMALL CONTAINS WITH OVERBAR,aZ NOTATION BAG MEMBERSHIP,aDIAMETER SIGN,aELECTRIC ARROW,aHOUSE",
    "aUP ARROWHEAD,aDOWN ARROWHEAD,aPROJECTIVE,bERSPECTIVE,aWAVY LINE,aLEFT CEILING,aRIGHT CEILING",
    "aLEFT FLOOR,aRIGHT FLOOR,aBOTTOM RIGHT CROP,hLEFT CROP,aTOP RIGHT CROP,eLEFT CROP",
    "aREVERSED NOT SIGN,aSQUARE LOZENGE,aARC,aSEGMENT,cCTOR,aTELEPHONE RECORDER,aPOSITION INDICATOR",
    "aVIEWDATA SQUARE,aPLACE OF INTEREST SIGN,aTURNED NOT SIGN,aWATCH,aHOURGLASS,aTOP LEFT CORNER",
    "eRIGHT CORNER,aBOTTOM LEFT CORNER,hRIGHT CORNER,aTOP HALF INTEGRAL,aBOTTOM HALF INTEGRAL",
    "aFROWN,aSMILE,aUP ARROWHEAD BETWEEN TWO HORIZONTAL BARS,aOPTION KEY,aERASE TO THE RIGHT",
    "aX IN A RECTANGLE BOX,aKEYBOARD,aLEFT-POINTING ANGLE BRACKET,aRIGHT-POINTING ANGLE BRACKET",
    "aERASE TO THE LEFT,aBENZENE RING,aCYLINDRICITY,aALL AROUND-PROFILE,aSYMMETRY,aTOTAL RUNOUT",
    "aDIMENSION ORIGIN,aCONICAL TAPER,aSLOPE,aCOUNTERBORE,hSINK,aAPL FUNCTIONAL SYMBOL I-BEAM",
    "wSQUISH QUAD,wQUAD EQUAL,zcDIVIDE,zeAMOND,zcJOT,zcCIRCLE,wCIRCLE STILE,zeJOT,wSLASH BAR",
    "wBACKSLASH BAR,wQUAD SLASH,zcBACKSLASH,zcLESS-THAN,zcGREATER-THAN,wLEFTWARDS VANE",
    "wRIGHTWARDS VANE,wQUAD LEFTWARDS ARROW,zcRIGHTWARDS ARROW,wCIRCLE BACKSLASH",
    "wDOWN TACK UNDERBAR,xELTA STILE,wQUAD DOWN CARET,zdELTA,wDOWN TACK JOT,wUPWARDS VANE",
    "wQUAD UPWARDS ARROW,wUP TACK OVERBAR,wDEL STILE,wQUAD UP CARET,zcDEL,wUP TACK JOT",
    "wDOWNWARDS VANE,wQUAD DOWNWARDS ARROW,yOTE UNDERBAR,wDELTA UNDERBAR,xIAMOND UNDERBAR",
    "wJOT UNDERBAR,wCIRCLE UNDERBAR,wUP SHOE JOT,wQUOTE QUAD,wCIRCLE STAR,wQUAD COLON",
    "wUP TACK DIAERESIS,wDEL DIAERESIS,wSTAR DIAERESIS,wJOT DIAERESIS,wCIRCLE DIAERESIS",
    "wDOWN SHOE STILE,wLEFT SHOE STILE,wTILDE DIAERESIS,wGREATER-THAN DIAERESIS,wCOMMA BAR",
    "wDEL TILDE,wZILDE,wSTILE TILDE,xEMICOLON UNDERBAR,wQUAD NOT EQUAL,zcQUESTION,wDOWN CARET TILDE",
    "wUP CARET TILDE,wIOTA,wRHO,wOMEGA,wALPHA UNDERBAR,wEPSILON UNDERBAR,wIOTA UNDERBAR",
    "wOMEGA UNDERBAR,wALPHA,aNOT CHECK MARK,aRIGHT ANGLE WITH DOWNWARDS ZIGZAG ARROW",
    "aSHOULDERED OPEN BOX,aBELL SYMBOL,aVERTICAL LINE WITH MIDDLE DOT,aINSERTION SYMBOL",
    "aCONTINUOUS UNDERLINE SYMBOL,aDISCONTINUOUS UNDERLINE SYMBOL,aEMPHASIS SYMBOL",
    "aCOMPOSITION SYMBOL,aWHITE SQUARE WITH CENTRE VERTICAL LINE,aENTER SYMBOL",
    "aALTERNATIVE KEY SYMBOL,aHELM SYMBOL,aCIRCLED HORIZONTAL BAR WITH NOTCH,iTRIANGLE DOWN",
    "aBROKEN CIRCLE WITH NORTHWEST ARROW,aUNDO SYMBOL,aMONOSTABLE SYMBOL,aHYSTERESIS SYMBOL",
    "aOPEN-CIRCUIT-OUTPUT H-TYPE SYMBOL,uL-TYPE SYMBOL,aPASSIVE-PULL-DOWN-OUTPUT SYMBOL",
    "nUP-OUTPUT SYMBOL,aDIRECT CURRENT SYMBOL FORM TWO,aSOFTWARE-FUNCTION SYMBOL",
    "aAPL FUNCTIONAL SYMBOL QUAD,aDECIMAL SEPARATOR KEY SYMBOL,aPREVIOUS PAGE,aNEXT PAGE",
    "aPRINT SCREEN SYMBOL,aCLEAR SCREEN SYMBOL,aLEFT PARENTHESIS UPPER HOOK,rEXTENSION,rLOWER HOOK",
    "aRIGHT PARENTHESIS UPPER HOOK,sEXTENSION,sLOWER HOOK,aLEFT SQUARE BRACKET UPPER CORNER",
    "uEXTENSION,uLOWER CORNER,aRIGHT SQUARE BRACKET UPPER CORNER,vEXTENSION,vLOWER CORNER",
    "aLEFT CURLY BRACKET UPPER HOOK,tMIDDLE PIECE,tLOWER HOOK,aCURLY BRACKET EXTENSION",
    "aRIGHT CURLY BRACKET UPPER HOOK,uMIDDLE PIECE,uLOWER HOOK,aINTEGRAL EXTENSION",
    "aHORIZONTAL LINE EXTENSION,aUPPER LEFT OR LOWER RIGHT CURLY BRACKET SECTION",
    "gRIGHT OR LOWER LEFT CURLY BRACKET SECTION,aSUMMATION TOP,kBOTTOM,aTOP SQUARE BRACKET",
    "aBOTTOM SQUARE BRACKET,v OVER TOP SQUARE BRACKET,aRADICAL SYMBOL BOTTOM",
    "aLEFT VERTICAL BOX LINE,aRIGHT VERTICAL BOX LINE,aHORIZONTAL SCAN LINE-1,v3,v7,v9",
    "aDENTISTRY SYMBOL LIGHT VERTICAL AND TOP RIGHT,zlBOTTOM RIGHT,zhWITH CIRCLE",
    "xDOWN AND HORIZONTAL WITH CIRCLE,xUP AND HORIZONTAL WITH CIRCLE,xVERTICAL WITH TRIANGLE",
    "xDOWN AND HORIZONTAL WITH TRIANGLE,xUP AND HORIZONTAL WITH TRIANGLE,xVERTICAL AND WAVE",
    "xDOWN AND HORIZONTAL WITH WAVE,xUP AND HORIZONTAL WITH WAVE,xDOWN AND HORIZONTAL",
    "xUP AND HORIZONTAL,xVERTICAL AND TOP LEFT,zlBOTTOM LEFT,aSQUARE FOOT,aRETURN SYMBOL",
    "aEJECT SYMBOL,aVERTICAL LINE EXTENSION,aMETRICAL BREVE,jLONG OVER SHORT,jSHORT OVER LONG",
    "jLONG OVER TWO SHORTS,jTWO SHORTS OVER LONG,uJOINED,kRISEME,kETRASEME,jPENTASEME,aEARTH GROUND",
    "aFUSE,aTOP PARENTHESIS,aBOTTOM PARENTHESIS,aTOP CURLY BRACKET,aBOTTOM CURLY BRACKET",
    "aTOP TORTOISE SHELL BRACKET,aBOTTOM TORTOISE SHELL BRACKET,aWHITE TRAPEZIUM",
    "aBENZENE RING WITH CIRCLE,aSTRAIGHTNESS,aFLATNESS,aAC CURRENT,aELECTRICAL INTERSECTION",
    "aDECIMAL EXPONENT SYMBOL,aBLACK RIGHT-POINTING DOUBLE TRIANGLE,gLEFT-POINTING DOUBLE TRIANGLE",
    "gUP-POINTING DOUBLE TRIANGLE,gDOWN-POINTING DOUBLE TRIANGLE",
    "gRIGHT-POINTING DOUBLE TRIANGLE WITH VERTICAL BAR",
    "gLEFT-POINTING DOUBLE TRIANGLE WITH VERTICAL BAR",
    "gRIGHT-POINTING TRIANGLE WITH DOUBLE VERTICAL BAR,aALARM CLOCK,aSTOPWATCH,aTIMER CLOCK",
    "aHOURGLASS WITH FLOWING SAND,aBLACK MEDIUM LEFT-POINTING TRIANGLE,nRIGHT-POINTING TRIANGLE",
    "nUP-POINTING TRIANGLE,nDOWN-POINTING TRIANGLE,aDOUBLE VERTICAL BAR,aBLACK SQUARE FOR STOP",
    "gCIRCLE FOR RECORD,aPOWER SYMBOL,gON-OFF SYMBOL,i SYMBOL,gSLEEP SYMBOL,aOBSERVER EYE SYMBOL",
    "aSYMBOL FOR NULL,lSTART OF HEADING,uTEXT,lEND OF TEXT,tRANSMISSION,nQUIRY,lACKNOWLEDGE,lBELL",
    "mACKSPACE,lHORIZONTAL TABULATION,lLINE FEED,lVERTICAL TABULATION,lFORM FEED,lCARRIAGE RETURN",
    "lSHIFT OUT,rIN,lDATA LINK ESCAPE,mEVICE CONTROL ONE,zbTWO,zcHREE,zbFOUR,lNEGATIVE ACKNOWLEDGE",
    "lSYNCHRONOUS IDLE,lEND OF TRANSMISSION BLOCK,lCANCEL,lEND OF MEDIUM,lSUBSTITUTE,lESCAPE",
    "lFILE SEPARATOR,lGROUP SEPARATOR,lRECORD SEPARATOR,lUNIT SEPARATOR,lSPACE,lDELETE",
    "aBLANK SYMBOL,aOPEN BOX,aSYMBOL FOR NEWLINE,lDELETE FORM TWO,lSUBSTITUTE FORM TWO",
    "=2440aOCR HOOK,eCHAIR,eFORK,eINVERTED FORK,eBELT BUCKLE,fOW TIE,fRANCH BANK IDENTIFICATION",
    "eAMOUNT OF CHECK,eDASH,eCUSTOMER ACCOUNT NUMBER,eDOUBLE BACKSLASH,=2460aCIRCLED DIGIT ONE,oTWO",
    "pHREE,oFOUR,pIVE,oSIX,pEVEN,oEIGHT,oNINE,iNUMBER TEN,pELEVEN,pTWELVE,qHIRTEEN,pFOURTEEN",
    "qIFTEEN,pSIXTEEN,qEVENTEEN,pEIGHTEEN,pNINETEEN,pTWENTY,aPARENTHESIZED DIGIT ONE,uTWO,vHREE",
    "uFOUR,vIVE,uSIX,vEVEN,uEIGHT,uNINE,oNUMBER TEN,vELEVEN,vTWELVE,wHIRTEEN,vFOURTEEN,wIFTEEN",
    "vSIXTEEN,wEVENTEEN,vEIGHTEEN,vNINETEEN,vTWENTY,aDIGIT ONE FULL STOP,gTWO FULL STOP",
    "hHREE FULL STOP,gFOUR FULL STOP,hIVE FULL STOP,gSIX FULL STOP,hEVEN FULL STOP,gEIGHT FULL STOP",
    "gNINE FULL STOP,aNUMBER TEN FULL STOP,hELEVEN FULL STOP,hTWELVE FULL STOP,iHIRTEEN FULL STOP",
    "hFOURTEEN FULL STOP,iIFTEEN FULL STOP,hSIXTEEN FULL STOP,iEVENTEEN FULL STOP",
    "hEIGHTEEN FULL STOP,hNINETEEN FULL STOP,hTWENTY FULL STOP,aPARENTHESIZED LATIN SMALL LETTER A",
    "ziB,ziC,ziD,ziE,ziF,ziG,ziH,ziI,ziJ,ziK,ziL,ziM,ziN,ziO,ziP,ziQ,ziR,ziS,ziT,ziU,ziV,ziW,ziX",
    "ziY,ziZ,aCIRCLED LATIN CAPITAL LETTER A,zeB,zeC,zeD,zeE,zeF,zeG,zeH,zeI,zeJ,zeK,zeL,zeM,zeN",
    "zeO,zeP,zeQ,zeR,zeS,zeT,zeU,zeV,zeW,zeX,zeY,zeZ,oSMALL LETTER A,zcB,zcC,zcD,zcE,zcF,zcG,zcH",
    "zcI,zcJ,zcK,zcL,zcM,zcN,zcO,zcP,zcQ,zcR,zcS,zcT,zcU,zcV,zcW,zcX,zcY,zcZ,iDIGIT ZERO",
    "aNEGATIVE CIRCLED NUMBER ELEVEN,yTWELVE,zHIRTEEN,yFOURTEEN,zIFTEEN,ySIXTEEN,zEVENTEEN",
    "yEIGHTEEN,yNINETEEN,yTWENTY,aDOUBLE CIRCLED DIGIT ONE,vTWO,wHREE,vFOUR,wIVE,vSIX,wEVEN,vEIGHT",
    "vNINE,pNUMBER TEN,aNEGATIVE CIRCLED DIGIT ZERO,aBOX DRAWINGS LIGHT HORIZONTAL",
    "nHEAVY HORIZONTAL,nLIGHT VERTICAL,nHEAVY VERTICAL,nLIGHT TRIPLE DASH HORIZONTAL",
    "nHEAVY TRIPLE DASH HORIZONTAL,nLIGHT TRIPLE DASH VERTICAL,nHEAVY TRIPLE DASH VERTICAL",
    "nLIGHT QUADRUPLE DASH HORIZONTAL,nHEAVY QUADRUPLE DASH HORIZONTAL",
    "nLIGHT QUADRUPLE DASH VERTICAL,nHEAVY QUADRUPLE DASH VERTICAL,nLIGHT DOWN AND RIGHT",
    "nDOWN LIGHT AND RIGHT HEAVY,sHEAVY AND RIGHT LIGHT,nHEAVY DOWN AND RIGHT,nLIGHT DOWN AND LEFT",
    "nDOWN LIGHT AND LEFT HEAVY,sHEAVY AND LEFT LIGHT,nHEAVY DOWN AND LEFT,nLIGHT UP AND RIGHT",
    "nUP LIGHT AND RIGHT HEAVY,qHEAVY AND RIGHT LIGHT,nHEAVY UP AND RIGHT,nLIGHT UP AND LEFT",
    "nUP LIGHT AND LEFT HEAVY,qHEAVY AND LEFT LIGHT,nHEAVY UP AND LEFT,nLIGHT VERTICAL AND RIGHT",
    "nVERTICAL LIGHT AND RIGHT HEAVY,nUP HEAVY AND RIGHT DOWN LIGHT,nDOWN HEAVY AND RIGHT UP LIGHT",
    "nVERTICAL HEAVY AND RIGHT LIGHT,nDOWN LIGHT AND RIGHT UP HEAVY,nUP LIGHT AND RIGHT DOWN HEAVY",
    "nHEAVY VERTICAL AND RIGHT,nLIGHT VERTICAL AND LEFT,nVERTICAL LIGHT AND LEFT HEAVY",
    "nUP HEAVY AND LEFT DOWN LIGHT,nDOWN HEAVY AND LEFT UP LIGHT,nVERTICAL HEAVY AND LEFT LIGHT",
    "nDOWN LIGHT AND LEFT UP HEAVY,nUP LIGHT AND LEFT DOWN HEAVY,nHEAVY VERTICAL AND LEFT",
    "nLIGHT DOWN AND HORIZONTAL,oEFT HEAVY AND RIGHT DOWN LIGHT,nRIGHT HEAVY AND LEFT DOWN LIGHT",
    "nDOWN LIGHT AND HORIZONTAL HEAVY,sHEAVY AND HORIZONTAL LIGHT,nRIGHT LIGHT AND LEFT DOWN HEAVY",
    "nLEFT LIGHT AND RIGHT DOWN HEAVY,nHEAVY DOWN AND HORIZONTAL,nLIGHT UP AND HORIZONTAL",
    "oEFT HEAVY AND RIGHT UP LIGHT,nRIGHT HEAVY AND LEFT UP LIGHT,nUP LIGHT AND HORIZONTAL HEAVY",
    "qHEAVY AND HORIZONTAL LIGHT,nRIGHT LIGHT AND LEFT UP HEAVY,nLEFT LIGHT AND RIGHT UP HEAVY",
    "nHEAVY UP AND HORIZONTAL,nLIGHT VERTICAL AND HORIZONTAL,oEFT HEAVY AND RIGHT VERTICAL LIGHT",
    "nRIGHT HEAVY AND LEFT VERTICAL LIGHT,nVERTICAL LIGHT AND HORIZONTAL HEAVY",
    "nUP HEAVY AND DOWN HORIZONTAL LIGHT,nDOWN HEAVY AND UP HORIZONTAL LIGHT",
    "nVERTICAL HEAVY AND HORIZONTAL LIGHT,nLEFT UP HEAVY AND RIGHT DOWN LIGHT",
    "nRIGHT UP HEAVY AND LEFT DOWN LIGHT,nLEFT DOWN HEAVY AND RIGHT UP LIGHT",
    "nRIGHT DOWN HEAVY AND LEFT UP LIGHT,nDOWN LIGHT AND UP HORIZONTAL HEAVY",
    "nUP LIGHT AND DOWN HORIZONTAL HEAVY,nRIGHT LIGHT AND LEFT VERTICAL HEAVY",
    "nLEFT LIGHT AND RIGHT VERTICAL HEAVY,nHEAVY VERTICAL AND HORIZONTAL",
    "nLIGHT DOUBLE DASH HORIZONTAL,nHEAVY DOUBLE DASH HORIZONTAL,nLIGHT DOUBLE DASH VERTICAL",
    "nHEAVY DOUBLE DASH VERTICAL,nDOUBLE HORIZONTAL,uVERTICAL,pWN SINGLE AND RIGHT DOUBLE",
    "sDOUBLE AND RIGHT SINGLE,pUBLE DOWN AND RIGHT,pWN SINGLE AND LEFT DOUBLE",
    "sDOUBLE AND LEFT SINGLE,pUBLE DOWN AND LEFT,nUP SINGLE AND RIGHT DOUBLE",
    "qDOUBLE AND RIGHT SINGLE,nDOUBLE UP AND RIGHT,nUP SINGLE AND LEFT DOUBLE",
    "qDOUBLE AND LEFT SINGLE,nDOUBLE UP AND LEFT,nVERTICAL SINGLE AND RIGHT DOUBLE",
    "wDOUBLE AND RIGHT SINGLE,nDOUBLE VERTICAL AND RIGHT,nVERTICAL SINGLE AND LEFT DOUBLE",
    "wDOUBLE AND LEFT SINGLE,nDOUBLE VERTICAL AND LEFT,pWN SINGLE AND HORIZONTAL DOUBLE",
    "sDOUBLE AND HORIZONTAL SINGLE,pUBLE DOWN AND HORIZONTAL,nUP SINGLE AND HORIZONTAL DOUBLE",
    "qDOUBLE AND HORIZONTAL SINGLE,nDOUBLE UP AND HORIZONTAL,nVERTICAL SINGLE AND HORIZONTAL DOUBLE",
    "wDOUBLE AND HORIZONTAL SINGLE,nDOUBLE VERTICAL AND HORIZONTAL,nLIGHT ARC DOWN AND RIGHT,zhLEFT",
    "xUP AND LEFT,zfRIGHT,tDIAGONAL UPPER RIGHT TO LOWER LEFT,zjLEFT TO LOWER RIGHT,zdCROSS,tLEFT",
    "tUP,tRIGHT,tDOWN,nHEAVY LEFT,tUP,tRIGHT,tDOWN,nLIGHT LEFT AND HEAVY RIGHT,tUP AND HEAVY DOWN",
    "nHEAVY LEFT AND LIGHT RIGHT,tUP AND LIGHT DOWN,aUPPER HALF BLOCK,aLOWER ONE EIGHTH BLOCK",
    "kQUARTER BLOCK,gTHREE EIGHTHS BLOCK,gHALF BLOCK,gFIVE EIGHTHS BLOCK,gTHREE QUARTERS BLOCK",
    "gSEVEN EIGHTHS BLOCK,aFULL BLOCK,aLEFT SEVEN EIGHTHS BLOCK,fTHREE QUARTERS BLOCK",
    "fFIVE EIGHTHS BLOCK,fHALF BLOCK,fTHREE EIGHTHS BLOCK,fONE QUARTER BLOCK,jEIGHTH BLOCK",
    "aRIGHT HALF BLOCK,aLIGHT SHADE,aMEDIUM SHADE,aDARK SHADE,aUPPER ONE EIGHTH BLOCK",
    "aRIGHT ONE EIGHTH BLOCK,aQUADRANT LOWER LEFT,pRIGHT,jUPPER LEFT",
    "t AND LOWER LEFT AND LOWER RIGHT,zfRIGHT,yUPPER RIGHT AND LOWER LEFT,zvRIGHT,pRIGHT",
    "u AND LOWER LEFT,zk AND LOWER RIGHT,aBLACK SQUARE,aWHITE SQUARE,m WITH ROUNDED CORNERS",
    "nCONTAINING BLACK SMALL SQUARE,aSQUARE WITH HORIZONTAL FILL,mVERTICAL FILL",
    "mORTHOGONAL CROSSHATCH FILL,mUPPER LEFT TO LOWER RIGHT FILL,sRIGHT TO LOWER LEFT FILL",
    "mDIAGONAL CROSSHATCH FILL,aBLACK SMALL SQUARE,aWHITE SMALL SQUARE,aBLACK RECTANGLE",
    "aWHITE RECTANGLE,aBLACK VERTICAL RECTANGLE,aWHITE VERTICAL RECTANGLE,aBLACK PARALLELOGRAM",
    "aWHITE PARALLELOGRAM,aBLACK UP-POINTING TRIANGLE,aWHITE UP-POINTING TRIANGLE",
    "aBLACK UP-POINTING SMALL TRIANGLE,aWHITE UP-POINTING SMALL TRIANGLE",
    "aBLACK RIGHT-POINTING TRIANGLE,aWHITE RIGHT-POINTING TRIANGLE",
    "aBLACK RIGHT-POINTING SMALL TRIANGLE,aWHITE RIGHT-POINTING SMALL TRIANGLE",
    "aBLACK RIGHT-POINTING POINTER,aWHITE RIGHT-POINTING POINTER,aBLACK DOWN-POINTING TRIANGLE",
    "aWHITE DOWN-POINTING TRIANGLE,aBLACK DOWN-POINTING SMALL TRIANGLE",
    "aWHITE DOWN-POINTING SMALL TRIANGLE,aBLACK LEFT-POINTING TRIANGLE",
    "aWHITE LEFT-POINTING TRIANGLE,aBLACK LEFT-POINTING SMALL TRIANGLE",
    "aWHITE LEFT-POINTING SMALL TRIANGLE,aBLACK LEFT-POINTING POINTER,aWHITE LEFT-POINTING POINTER",
    "aBLACK DIAMOND,aWHITE DIAMOND,n CONTAINING BLACK SMALL DIAMOND,aFISHEYE,aLOZENGE,aWHITE CIRCLE",
    "aDOTTED CIRCLE,aCIRCLE WITH VERTICAL FILL,aBULLSEYE,bLACK CIRCLE,aCIRCLE WITH LEFT HALF BLACK",
    "mRIGHT HALF BLACK,mLOWER HALF BLACK,mUPPER HALF BLACK,sRIGHT QUADRANT BLACK",
    "mALL BUT UPPER LEFT QUADRANT BLACK,aLEFT HALF BLACK CIRCLE,aRIGHT HALF BLACK CIRCLE",
    "aINVERSE BULLET,iWHITE CIRCLE,aUPPER HALF INVERSE WHITE CIRCLE",
    "aLOWER HALF INVERSE WHITE CIRCLE,aUPPER LEFT QUADRANT CIRCULAR ARC",
    "gRIGHT QUADRANT CIRCULAR ARC,aLOWER RIGHT QUADRANT CIRCULAR ARC,gLEFT QUADRANT CIRCULAR ARC",
    "aUPPER HALF CIRCLE,aLOWER HALF CIRCLE,aBLACK LOWER RIGHT TRIANGLE,mLEFT TRIANGLE",
    "gUPPER LEFT TRIANGLE,mRIGHT TRIANGLE,aWHITE BULLET,aSQUARE WITH LEFT HALF BLACK",
    "mRIGHT HALF BLACK,mUPPER LEFT DIAGONAL HALF BLACK,mLOWER RIGHT DIAGONAL HALF BLACK",
    "aWHITE SQUARE WITH VERTICAL BISECTING LINE,gUP-POINTING TRIANGLE WITH DOT",
    "aUP-POINTING TRIANGLE WITH LEFT HALF BLACK,zbRIGHT HALF BLACK,aLARGE CIRCLE",
    "aWHITE SQUARE WITH UPPER LEFT QUADRANT,sLOWER LEFT QUADRANT,yRIGHT QUADRANT",
    "sUPPER RIGHT QUADRANT,gCIRCLE WITH UPPER LEFT QUADRANT,sLOWER LEFT QUADRANT,yRIGHT QUADRANT",
    "sUPPER RIGHT QUADRANT,aUPPER LEFT TRIANGLE,gRIGHT TRIANGLE,aLOWER LEFT TRIANGLE",
    "aWHITE MEDIUM SQUARE,aBLACK MEDIUM SQUARE,aWHITE MEDIUM SMALL SQUARE",
    "aBLACK MEDIUM SMALL SQUARE,aLOWER RIGHT TRIANGLE,aBLACK SUN WITH RAYS,aCLOUD,aUMBRELLA",
    "aSNOWMAN,aCOMET,aBLACK STAR,aWHITE STAR,aLIGHTNING,aTHUNDERSTORM,aSUN,aASCENDING NODE",
    "aDESCENDING NODE,aCONJUNCTION,aOPPOSITION,aBLACK TELEPHONE,aWHITE TELEPHONE,aBALLOT BOX",
    "k WITH CHECK,qX,aSALTIRE,aUMBRELLA WITH RAIN DROPS,aHOT BEVERAGE,aWHITE SHOGI PIECE",
    "aBLACK SHOGI PIECE,aSHAMROCK,aREVERSED ROTATED FLORAL HEART BULLET,aBLACK LEFT POINTING INDEX",
    "gRIGHT POINTING INDEX,aWHITE LEFT POINTING INDEX,gUP POINTING INDEX,gRIGHT POINTING INDEX",
    "gDOWN POINTING INDEX,aSKULL AND CROSSBONES,aCAUTION SIGN,aRADIOACTIVE SIGN,aBIOHAZARD SIGN",
    "aCADUCEUS,aANKH,aORTHODOX CROSS,aCHI RHO,bROSS OF LORRAINE,jJERUSALEM,aSTAR AND CRESCENT",
    "aFARSI SYMBOL,aADI SHAKTI,aHAMMER AND SICKLE,aPEACE SYMBOL,aYIN YANG,aTRIGRAM FOR HEAVEN,mLAKE",
    "mFIRE,mTHUNDER,mWIND,nATER,mMOUNTAIN,mEARTH,aWHEEL OF DHARMA,cITE FROWNING FACE,gSMILING FACE",
    "aBLACK SMILING FACE,aWHITE SUN WITH RAYS,aFIRST QUARTER MOON,aLAST QUARTER MOON,aMERCURY",
    "aFEMALE SIGN,aEARTH,aMALE SIGN,aJUPITER,aSATURN,aURANUS,aNEPTUNE,aPLUTO,aARIES,aTAURUS,aGEMINI",
    "aCANCER,aLEO,aVIRGO,aLIBRA,aSCORPIUS,bAGITTARIUS,aCAPRICORN,aAQUARIUS,aPISCES",
    "aWHITE CHESS KING,mQUEEN,mROOK,mBISHOP,mKNIGHT,mPAWN,aBLACK CHESS KING,mQUEEN,mROOK,mBISHOP",
    "mKNIGHT,mPAWN,gSPADE SUIT,aWHITE HEART SUIT,gDIAMOND SUIT,aBLACK CLUB SUIT,aWHITE SPADE SUIT",
    "aBLACK HEART SUIT,gDIAMOND SUIT,aWHITE CLUB SUIT,aHOT SPRINGS,aQUARTER NOTE,aEIGHTH NOTE",
    "aBEAMED EIGHTH NOTES,hSIXTEENTH NOTES,aMUSIC FLAT SIGN,gNATURAL SIGN,gSHARP SIGN",
    "aWEST SYRIAC CROSS,aEAST SYRIAC CROSS,aUNIVERSAL RECYCLING SYMBOL",
    "aRECYCLING SYMBOL FOR TYPE-1 PLASTICS,zb2 PLASTICS,zb3 PLASTICS,zb4 PLASTICS,zb5 PLASTICS",
    "zb6 PLASTICS,zb7 PLASTICS,vGENERIC MATERIALS,aBLACK UNIVERSAL RECYCLING SYMBOL",
    "aRECYCLED PAPER SYMBOL,aPARTIALLY-RECYCLED PAPER SYMBOL,bERMANENT PAPER SIGN",
    "aWHEELCHAIR SYMBOL,aDIE FACE-1,j2,j3,j4,j5,j6,aWHITE CIRCLE WITH DOT RIGHT,sTWO DOTS",
    "aBLACK CIRCLE WITH WHITE DOT RIGHT,sTWO WHITE DOTS,aMONOGRAM FOR YANG,oIN",
    "aDIGRAM FOR GREATER YANG,lLESSER YIN,tANG,lGREATER YIN,aWHITE FLAG,aBLACK FLAG",
    "aHAMMER AND PICK,aANCHOR,aCROSSED SWORDS,aSTAFF OF AESCULAPIUS,bCALES,aALEMBIC,aFLOWER,aGEAR",
    "aSTAFF OF HERMES,aATOM SYMBOL,aFLEUR-DE-LIS,aOUTLINED WHITE STAR,aTHREE LINES CONVERGING RIGHT",
    "xLEFT,aWARNING SIGN,aHIGH VOLTAGE SIGN,aDOUBLED FEMALE SIGN,iMALE SIGN",
    "aINTERLOCKED FEMALE AND MALE SIGN,aMALE AND FEMALE SIGN,fWITH STROKE SIGN",
    "rAND MALE AND FEMALE SIGN,aVERTICAL MALE WITH STROKE SIGN,aHORIZONTAL MALE WITH STROKE SIGN",
    "aMEDIUM WHITE CIRCLE,hBLACK CIRCLE,hSMALL WHITE CIRCLE,bARRIAGE SYMBOL,aDIVORCE SYMBOL",
    "aUNMARRIED PARTNERSHIP SYMBOL,aCOFFIN,aFUNERAL URN,aNEUTER,aCERES,aPALLAS,aJUNO,aVESTA,aCHIRON",
    "aBLACK MOON LILITH,aSEXTILE,cMISEXTILE,aQUINCUNX,aSESQUIQUADRATE,bOCCER BALL,aBASEBALL",
    "aSQUARED KEY,aWHITE DRAUGHTS MAN,pKING,aBLACK DRAUGHTS MAN,pKING,aSNOWMAN WITHOUT SNOW",
    "bUN BEHIND CLOUD,aRAIN,aBLACK SNOWMAN,aTHUNDER CLOUD AND RAIN,bURNED WHITE SHOGI PIECE",
    "hBLACK SHOGI PIECE,aWHITE DIAMOND IN SQUARE,aCROSSING LANES,aDISABLED CAR,aOPHIUCHUS,aPICK",
    "aCAR SLIDING,aHELMET WITH WHITE CROSS,aCIRCLED CROSSING LANES,bHAINS,aNO ENTRY",
    "aALTERNATE ONE-WAY LEFT WAY TRAFFIC,aBLACK TWO-WAY LEFT WAY TRAFFIC",
    "aWHITE TWO-WAY LEFT WAY TRAFFIC,aBLACK LEFT LANE MERGE,aWHITE LEFT LANE MERGE,aDRIVE SLOW SIGN",
    "aHEAVY WHITE DOWN-POINTING TRIANGLE,aLEFT CLOSED ENTRY,aSQUARED SALTIRE",
    "aFALLING DIAGONAL IN WHITE CIRCLE IN BLACK SQUARE,aBLACK TRUCK,aRESTRICTED LEFT ENTRY-1,w2",
    "aASTRONOMICAL SYMBOL FOR URANUS,aHEAVY CIRCLE WITH STROKE AND TWO DOTS ABOVE,aPENTAGRAM",
    "aRIGHT-HANDED INTERLACED PENTAGRAM,aLEFT-HANDED INTERLACED PENTAGRAM,aINVERTED PENTAGRAM",
    "aBLACK CROSS ON SHIELD,aSHINTO SHRINE,aCHURCH,bASTLE,aHISTORIC SITE,aGEAR WITHOUT HUB",
    "j HANDLES,aMAP SYMBOL FOR LIGHTHOUSE,bOUNTAIN,aUMBRELLA ON GROUND,aFOUNTAIN,bLAG IN HOLE,bERRY",
    "aSAILBOAT,bQUARE FOUR CORNERS,bKIER,aICE SKATE,aPERSON WITH BALL,aTENT,aJAPANESE BANK SYMBOL",
    "aHEADSTONE GRAVEYARD SYMBOL,aFUEL PUMP,aCUP ON BLACK SQUARE",
    "aWHITE FLAG WITH HORIZONTAL MIDDLE BLACK STRIPE,aBLACK SAFETY SCISSORS,aUPPER BLADE SCISSORS",
    "aBLACK SCISSORS,aLOWER BLADE SCISSORS,aWHITE SCISSORS,gHEAVY CHECK MARK",
    "aTELEPHONE LOCATION SIGN,bAPE DRIVE,aAIRPLANE,aENVELOPE,aRAISED FIST,hHAND,aVICTORY HAND",
    "aWRITING HAND,aLOWER RIGHT PENCIL,aPENCIL,aUPPER RIGHT PENCIL,aWHITE NIB,aBLACK NIB",
    "aCHECK MARK,aHEAVY CHECK MARK,aMULTIPLICATION X,aHEAVY MULTIPLICATION X,aBALLOT X",
    "aHEAVY BALLOT X,aOUTLINED GREEK CROSS,aHEAVY GREEK CROSS,aOPEN CENTRE CROSS",
    "aHEAVY OPEN CENTRE CROSS,aLATIN CROSS,aSHADOWED WHITE LATIN CROSS,aOUTLINED LATIN CROSS",
    "aMALTESE CROSS,aSTAR OF DAVID,aFOUR TEARDROP-SPOKED ASTERISK,fBALLOON-SPOKED ASTERISK",
    "aHEAVY FOUR BALLOON-SPOKED ASTERISK,aFOUR CLUB-SPOKED ASTERISK,aBLACK FOUR POINTED STAR",
    "aWHITE FOUR POINTED STAR,aSPARKLES,bTRESS OUTLINED WHITE STAR,aCIRCLED WHITE STAR",
    "aOPEN CENTRE BLACK STAR,aBLACK CENTRE WHITE STAR,aOUTLINED BLACK STAR",
    "aHEAVY OUTLINED BLACK STAR,aPINWHEEL STAR,aSHADOWED WHITE STAR,aHEAVY ASTERISK",
    "aOPEN CENTRE ASTERISK,aEIGHT SPOKED ASTERISK,gPOINTED BLACK STAR,oPINWHEEL STAR",
    "aSIX POINTED BLACK STAR,aEIGHT POINTED RECTILINEAR BLACK STAR",
    "aHEAVY EIGHT POINTED RECTILINEAR BLACK STAR,aTWELVE POINTED BLACK STAR",
    "aSIXTEEN POINTED ASTERISK,aTEARDROP-SPOKED ASTERISK,aOPEN CENTRE TEARDROP-SPOKED ASTERISK",
    "aHEAVY TEARDROP-SPOKED ASTERISK,aSIX PETALLED BLACK AND WHITE FLORETTE,aBLACK FLORETTE",
    "aWHITE FLORETTE,aEIGHT PETALLED OUTLINED BLACK FLORETTE",
    "aCIRCLED OPEN CENTRE EIGHT POINTED STAR,aHEAVY TEARDROP-SPOKED PINWHEEL ASTERISK,aSNOWFLAKE",
    "aTIGHT TRIFOLIATE SNOWFLAKE,aHEAVY CHEVRON SNOWFLAKE,aSPARKLE,aHEAVY SPARKLE",
    "aBALLOON-SPOKED ASTERISK,aEIGHT TEARDROP-SPOKED PROPELLER ASTERISK",
    "aHEAVY EIGHT TEARDROP-SPOKED PROPELLER ASTERISK,aCROSS MARK,aSHADOWED WHITE CIRCLE",
    "aNEGATIVE SQUARED CROSS MARK,aLOWER RIGHT DROP-SHADOWED WHITE SQUARE",
    "aUPPER RIGHT DROP-SHADOWED WHITE SQUARE,aLOWER RIGHT SHADOWED WHITE SQUARE",
    "aUPPER RIGHT SHADOWED WHITE SQUARE,aBLACK QUESTION MARK ORNAMENT,aWHITE QUESTION MARK ORNAMENT",
    "gEXCLAMATION MARK ORNAMENT,aBLACK DIAMOND MINUS WHITE X,aHEAVY EXCLAMATION MARK SYMBOL",
    "aLIGHT VERTICAL BAR,aMEDIUM VERTICAL BAR,aHEAVY VERTICAL BAR",
    "gSINGLE TURNED COMMA QUOTATION MARK ORNAMENT,nCOMMA QUOTATION MARK ORNAMENT",
    "gDOUBLE TURNED COMMA QUOTATION MARK ORNAMENT,nCOMMA QUOTATION MARK ORNAMENT",
    "gLOW SINGLE COMMA QUOTATION MARK ORNAMENT,kDOUBLE COMMA QUOTATION MARK ORNAMENT",
    "aCURVED STEM PARAGRAPH SIGN ORNAMENT,aHEAVY EXCLAMATION MARK ORNAMENT",
    "gHEART EXCLAMATION MARK ORNAMENT,gBLACK HEART,aROTATED HEAVY BLACK HEART BULLET,aFLORAL HEART",
    "aROTATED FLORAL HEART BULLET,aMEDIUM LEFT PARENTHESIS ORNAMENT,hRIGHT PARENTHESIS ORNAMENT",
    "hFLATTENED LEFT PARENTHESIS ORNAMENT,rRIGHT PARENTHESIS ORNAMENT",
    "hLEFT-POINTING ANGLE BRACKET ORNAMENT,hRIGHT-POINTING ANGLE BRACKET ORNAMENT",
    "aHEAVY LEFT-POINTING ANGLE QUOTATION MARK ORNAMENT",
    "gRIGHT-POINTING ANGLE QUOTATION MARK ORNAMENT,gLEFT-POINTING ANGLE BRACKET ORNAMENT",
    "gRIGHT-POINTING ANGLE BRACKET ORNAMENT,aLIGHT LEFT TORTOISE SHELL BRACKET ORNAMENT",
    "gRIGHT TORTOISE SHELL BRACKET ORNAMENT,aMEDIUM LEFT CURLY BRACKET ORNAMENT",
    "hRIGHT CURLY BRACKET ORNAMENT,aDINGBAT NEGATIVE CIRCLED DIGIT ONE,zgTWO,zhHREE,zgFOUR,zhIVE",
    "zgSIX,zhEVEN,zgEIGHT,zgNINE,zNUMBER TEN,iCIRCLED SANS-SERIF DIGIT ONE,ziTWO,zjHREE,ziFOUR",
    "zjIVE,ziSIX,zjEVEN,ziEIGHT,ziNINE,zcNUMBER TEN,iNEGATIVE CIRCLED SANS-SERIF DIGIT ONE,zrTWO",
    "zsHREE,zrFOUR,zsIVE,zrSIX,zsEVEN,zrEIGHT,zrNINE,zlNUMBER TEN",
    "aHEAVY WIDE-HEADED RIGHTWARDS ARROW,gPLUS SIGN,gMINUS SIGN,gDIVISION SIGN,gSOUTH EAST ARROW",
    "gRIGHTWARDS ARROW,gNORTH EAST ARROW,aDRAFTING POINT RIGHTWARDS ARROW",
    "aHEAVY ROUND-TIPPED RIGHTWARDS ARROW,aTRIANGLE-HEADED RIGHTWARDS ARROW",
    "aHEAVY TRIANGLE-HEADED RIGHTWARDS ARROW,aDASHED TRIANGLE-HEADED RIGHTWARDS ARROW",
    "aHEAVY DASHED TRIANGLE-HEADED RIGHTWARDS ARROW,aBLACK RIGHTWARDS ARROW",
    "aTHREE-D TOP-LIGHTED RIGHTWARDS ARROWHEAD,iBOTTOM-LIGHTED RIGHTWARDS ARROWHEAD",
    "aBLACK RIGHTWARDS ARROWHEAD,aHEAVY BLACK CURVED DOWNWARDS AND RIGHTWARDS ARROW",
    "tUPWARDS AND RIGHTWARDS ARROW,aSQUAT BLACK RIGHTWARDS ARROW",
    "aHEAVY CONCAVE-POINTED BLACK RIGHTWARDS ARROW,aRIGHT-SHADED WHITE RIGHTWARDS ARROW",
    "aLEFT-SHADED WHITE RIGHTWARDS ARROW,aBACK-TILTED SHADOWED WHITE RIGHTWARDS ARROW",
    "aFRONT-TILTED SHADOWED WHITE RIGHTWARDS ARROW",
    "aHEAVY LOWER RIGHT-SHADOWED WHITE RIGHTWARDS ARROW",
    "gUPPER RIGHT-SHADOWED WHITE RIGHTWARDS ARROW",
    "aNOTCHED LOWER RIGHT-SHADOWED WHITE RIGHTWARDS ARROW,aCURLY LOOP",
    "aNOTCHED UPPER RIGHT-SHADOWED WHITE RIGHTWARDS ARROW,aCIRCLED HEAVY WHITE RIGHTWARDS ARROW",
    "aWHITE-FEATHERED RIGHTWARDS ARROW,aBLACK-FEATHERED SOUTH EAST ARROW,qRIGHTWARDS ARROW",
    "qNORTH EAST ARROW,aHEAVY BLACK-FEATHERED SOUTH EAST ARROW,wRIGHTWARDS ARROW,wNORTH EAST ARROW",
    "aTEARDROP-BARBED RIGHTWARDS ARROW,aHEAVY TEARDROP-SHANKED RIGHTWARDS ARROW",
    "aWEDGE-TAILED RIGHTWARDS ARROW,aHEAVY WEDGE-TAILED RIGHTWARDS ARROW",
    "aOPEN-OUTLINED RIGHTWARDS ARROW,aDOUBLE CURLY LOOP,aTHREE DIMENSIONAL ANGLE",
    "aWHITE TRIANGLE CONTAINING SMALL WHITE TRIANGLE,aPERPENDICULAR,aOPEN SUBSET,hPERSET",
    "aLEFT S-SHAPED BAG DELIMITER,aRIGHT S-SHAPED BAG DELIMITER,aOR WITH DOT INSIDE",
    "aREVERSE SOLIDUS PRECEDING SUBSET,aSUPERSET PRECEDING SOLIDUS",
    "aVERTICAL BAR WITH HORIZONTAL STROKE,aMATHEMATICAL RISING DIAGONAL,aLONG DIVISION",
    "aMATHEMATICAL FALLING DIAGONAL,aSQUARED LOGICAL AND,qOR,aWHITE DIAMOND WITH CENTRED DOT",
    "aAND WITH DOT,aELEMENT OF OPENING UPWARDS,aLOWER RIGHT CORNER WITH DOT",
    "aUPPER LEFT CORNER WITH DOT,aLEFT OUTER JOIN,aRIGHT OUTER JOIN,aFULL OUTER JOIN,aLARGE UP TACK",
    "gDOWN TACK,bEFT AND RIGHT DOUBLE TURNSTILE,pTACK,fMULTIMAP,bONG RIGHT TACK,fLEFT TACK",
    "aUP TACK WITH CIRCLE ABOVE,aLOZENGE DIVIDED BY HORIZONTAL RULE,aWHITE CONCAVE-SIDED DIAMOND",
    "zc WITH LEFTWARDS TICK,ziRIGHTWARDS TICK,gSQUARE WITH LEFTWARDS TICK,sRIGHTWARDS TICK",
    "aMATHEMATICAL LEFT WHITE SQUARE BRACKET,nRIGHT WHITE SQUARE BRACKET,nLEFT ANGLE BRACKET",
    "nRIGHT ANGLE BRACKET,nLEFT DOUBLE ANGLE BRACKET,nRIGHT DOUBLE ANGLE BRACKET",
    "nLEFT WHITE TORTOISE SHELL BRACKET,nRIGHT WHITE TORTOISE SHELL BRACKET",
    "nLEFT FLATTENED PARENTHESIS,nRIGHT FLATTENED PARENTHESIS,aUPWARDS QUADRUPLE ARROW",
    "aDOWNWARDS QUADRUPLE ARROW,aANTICLOCKWISE GAPPED CIRCLE ARROW,aCLOCKWISE GAPPED CIRCLE ARROW",
    "aRIGHT ARROW WITH CIRCLED PLUS,aLONG LEFTWARDS ARROW,fRIGHTWARDS ARROW,fLEFT RIGHT ARROW",
    "jWARDS DOUBLE ARROW,fRIGHTWARDS DOUBLE ARROW,fLEFT RIGHT DOUBLE ARROW,jWARDS ARROW FROM BAR",
    "fRIGHTWARDS ARROW FROM BAR,fLEFTWARDS DOUBLE ARROW FROM BAR,fRIGHTWARDS DOUBLE ARROW FROM BAR",
    "qSQUIGGLE ARROW"]

end Reconcile.Text.CharName
