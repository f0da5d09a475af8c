/-!
# Names of characters from U+0000 to U+0FFF

The lines are read by `Reconcile.Text.CharName`.
-/

namespace Reconcile.Text.CharName

/-- The names of the characters from U+0000 to U+0FFF. -/
def namesFrom0000 : List String :=
  [
    "=20aSPACE,aEXCLAMATION MARK,aQUOTATION MARK,aNUMBER SIGN,aDOLLAR SIGN,aPERCENT SIGN,aAMPERSAND",
    "bPOSTROPHE,aLEFT PARENTHESIS,aRIGHT PARENTHESIS,aASTERISK,aPLUS SIGN,aCOMMA,aHYPHEN-MINUS",
    "aFULL STOP,aSOLIDUS,aDIGIT ZERO,gONE,gTWO,hHREE,gFOUR,hIVE,gSIX,hEVEN,gEIGHT,gNINE,aCOLON",
    "aSEMICOLON,aLESS-THAN SIGN,aEQUALS SIGN,aGREATER-THAN SIGN,aQUESTION MARK,aCOMMERCIAL AT",
    "aLATIN CAPITAL LETTER A,vB,vC,vD,vE,vF,vG,vH,vI,vJ,vK,vL,vM,vN,vO,vP,vQ,vR,vS,vT,vU,vV,vW,vX",
    "vY,vZ,bEFT SQUARE BRACKET,aREVERSE SOLIDUS,bIGHT SQUARE BRACKET,aCIRCUMFLEX ACCENT,aLOW LINE",
    "aGRAVE ACCENT,aLATIN SMALL LETTER A,tB,tC,tD,tE,tF,tG,tH,tI,tJ,tK,tL,tM,tN,tO,tP,tQ,tR,tS,tT",
    "tU,tV,tW,tX,tY,tZ,bEFT CURLY BRACKET,aVERTICAL LINE,aRIGHT CURLY BRACKET,aTILDE",
    "=A0aNO-BREAK SPACE,aINVERTED EXCLAMATION MARK,aCENT SIGN,aPOUND SIGN,aCURRENCY SIGN,aYEN SIGN",
    "aBROKEN BAR,aSECTION SIGN,aDIAERESIS,aCOPYRIGHT SIGN,aFEMININE ORDINAL INDICATOR",
    "aLEFT-POINTING DOUBLE ANGLE QUOTATION MARK,aNOT SIGN,aSOFT HYPHEN,aREGISTERED SIGN,aMACRON",
    "aDEGREE SIGN,aPLUS-MINUS SIGN,aSUPERSCRIPT TWO,nHREE,aACUTE ACCENT,aMICRO SIGN,aPILCROW SIGN",
    "aMIDDLE DOT,aCEDILLA,aSUPERSCRIPT ONE,aMASCULINE ORDINAL INDICATOR",
    "aRIGHT-POINTING DOUBLE ANGLE QUOTATION MARK,aVULGAR FRACTION ONE QUARTER,uHALF,qTHREE QUARTERS",
    "aINVERTED QUESTION MARK,aLATIN CAPITAL LETTER A WITH GRAVE,zdACUTE,zdCIRCUMFLEX,zdTILDE",
    "zdDIAERESIS,zdRING ABOVE,wE,vC WITH CEDILLA,vE WITH GRAVE,zdACUTE,zdCIRCUMFLEX,zdDIAERESIS",
    "vI WITH GRAVE,zdACUTE,zdCIRCUMFLEX,zdDIAERESIS,vETH,vN WITH TILDE,vO WITH GRAVE,zdACUTE",
    "zdCIRCUMFLEX,zdTILDE,zdDIAERESIS,aMULTIPLICATION SIGN,aLATIN CAPITAL LETTER O WITH STROKE",
    "vU WITH GRAVE,zdACUTE,zdCIRCUMFLEX,zdDIAERESIS,vY WITH ACUTE,vTHORN,gSMALL LETTER SHARP S",
    "tA WITH GRAVE,zbACUTE,zbCIRCUMFLEX,zbTILDE,zbDIAERESIS,zbRING ABOVE,uE,tC WITH CEDILLA",
    "tE WITH GRAVE,zbACUTE,zbCIRCUMFLEX,zbDIAERESIS,tI WITH GRAVE,zbACUTE,zbCIRCUMFLEX,zbDIAERESIS",
    "tETH,tN WITH TILDE,tO WITH GRAVE,zbACUTE,zbCIRCUMFLEX,zbTILDE,zbDIAERESIS,aDIVISION SIGN",
    "aLATIN SMALL LETTER O WITH STROKE,tU WITH GRAVE,zbACUTE,zbCIRCUMFLEX,zbDIAERESIS,tY WITH ACUTE",
    "tTHORN,tY WITH DIAERESIS,gCAPITAL LETTER A WITH MACRON,gSMALL LETTER A WITH MACRON",
    "gCAPITAL LETTER A WITH BREVE,gSMALL LETTER A WITH BREVE,gCAPITAL LETTER A WITH OGONEK",
    "gSMALL LETTER A WITH OGONEK,gCAPITAL LETTER C WITH ACUTE,gSMALL LETTER C WITH ACUTE",
    "gCAPITAL LETTER C WITH CIRCUMFLEX,gSMALL LETTER C WITH CIRCUMFLEX",
    "gCAPITAL LETTER C WITH DOT ABOVE,gSMALL LETTER C WITH DOT ABOVE,gCAPITAL LETTER C WITH CARON",
    "gSMALL LETTER C WITH CARON,gCAPITAL LETTER D WITH CARON,gSMALL LETTER D WITH CARON",
    "gCAPITAL LETTER D WITH STROKE,gSMALL LETTER D WITH STROKE,gCAPITAL LETTER E WITH MACRON",
    "gSMALL LETTER E WITH MACRON,gCAPITAL LETTER E WITH BREVE,gSMALL LETTER E WITH BREVE",
    "gCAPITAL LETTER E WITH DOT ABOVE,gSMALL LETTER E WITH DOT ABOVE,gCAPITAL LETTER E WITH OGONEK",
    "gSMALL LETTER E WITH OGONEK,gCAPITAL LETTER E WITH CARON,gSMALL LETTER E WITH CARON",
    "gCAPITAL LETTER G WITH CIRCUMFLEX,gSMALL LETTER G WITH CIRCUMFLEX,gCAPITAL LETTER G WITH BREVE",
    "gSMALL LETTER G WITH BREVE,gCAPITAL LETTER G WITH DOT ABOVE,gSMALL LETTER G WITH DOT ABOVE",
    "gCAPITAL LETTER G WITH CEDILLA,gSMALL LETTER G WITH CEDILLA,gCAPITAL LETTER H WITH CIRCUMFLEX",
    "gSMALL LETTER H WITH CIRCUMFLEX,gCAPITAL LETTER H WITH STROKE,gSMALL LETTER H WITH STROKE",
    "gCAPITAL LETTER I WITH TILDE,gSMALL LETTER I WITH TILDE,gCAPITAL LETTER I WITH MACRON",
    "gSMALL LETTER I WITH MACRON,gCAPITAL LETTER I WITH BREVE,gSMALL LETTER I WITH BREVE",
    "gCAPITAL LETTER I WITH OGONEK,gSMALL LETTER I WITH OGONEK,gCAPITAL LETTER I WITH DOT ABOVE",
    "gSMALL LETTER DOTLESS I,gCAPITAL LIGATURE IJ,gSMALL LIGATURE IJ",
    "gCAPITAL LETTER J WITH CIRCUMFLEX,gSMALL LETTER J WITH CIRCUMFLEX",
    "gCAPITAL LETTER K WITH CEDILLA,gSMALL LETTER K WITH CEDILLA,uRA,gCAPITAL LETTER L WITH ACUTE",
    "gSMALL LETTER L WITH ACUTE,gCAPITAL LETTER L WITH CEDILLA,gSMALL LETTER L WITH CEDILLA",
    "gCAPITAL LETTER L WITH CARON,gSMALL LETTER L WITH CARON,gCAPITAL LETTER L WITH MIDDLE DOT",
    "gSMALL LETTER L WITH MIDDLE DOT,gCAPITAL LETTER L WITH STROKE,gSMALL LETTER L WITH STROKE",
    "gCAPITAL LETTER N WITH ACUTE,gSMALL LETTER N WITH ACUTE,gCAPITAL LETTER N WITH CEDILLA",
    "gSMALL LETTER N WITH CEDILLA,gCAPITAL LETTER N WITH CARON,gSMALL LETTER N WITH CARON",
    "vPRECEDED BY APOSTROPHE,gCAPITAL LETTER ENG,gSMALL LETTER ENG,gCAPITAL LETTER O WITH MACRON",
    "gSMALL LETTER O WITH MACRON,gCAPITAL LETTER O WITH BREVE,gSMALL LETTER O WITH BREVE",
    "gCAPITAL LETTER O WITH DOUBLE ACUTE,gSMALL LETTER O WITH DOUBLE ACUTE,gCAPITAL LIGATURE OE",
    "gSMALL LIGATURE OE,gCAPITAL LETTER R WITH ACUTE,gSMALL LETTER R WITH ACUTE",
    "gCAPITAL LETTER R WITH CEDILLA,gSMALL LETTER R WITH CEDILLA,gCAPITAL LETTER R WITH CARON",
    "gSMALL LETTER R WITH CARON,gCAPITAL LETTER S WITH ACUTE,gSMALL LETTER S WITH ACUTE",
    "gCAPITAL LETTER S WITH CIRCUMFLEX,gSMALL LETTER S WITH CIRCUMFLEX",
    "gCAPITAL LETTER S WITH CEDILLA,gSMALL LETTER S WITH CEDILLA,gCAPITAL LETTER S WITH CARON",
    "gSMALL LETTER S WITH CARON,gCAPITAL LETTER T WITH CEDILLA,gSMALL LETTER T WITH CEDILLA",
    "gCAPITAL LETTER T WITH CARON,gSMALL LETTER T WITH CARON,gCAPITAL LETTER T WITH STROKE",
    "gSMALL LETTER T WITH STROKE,gCAPITAL LETTER U WITH TILDE,gSMALL LETTER U WITH TILDE",
    "gCAPITAL LETTER U WITH MACRON,gSMALL LETTER U WITH MACRON,gCAPITAL LETTER U WITH BREVE",
    "gSMALL LETTER U WITH BREVE,gCAPITAL LETTER U WITH RING ABOVE,gSMALL LETTER U WITH RING ABOVE",
    "gCAPITAL LETTER U WITH DOUBLE ACUTE,gSMALL LETTER U WITH DOUBLE ACUTE",
    "gCAPITAL LETTER U WITH OGONEK,gSMALL LETTER U WITH OGONEK,gCAPITAL LETTER W WITH CIRCUMFLEX",
    "gSMALL LETTER W WITH CIRCUMFLEX,gCAPITAL LETTER Y WITH CIRCUMFLEX",
    "gSMALL LETTER Y WITH CIRCUMFLEX,gCAPITAL LETTER Y WITH DIAERESIS,vZ WITH ACUTE",
    "gSMALL LETTER Z WITH ACUTE,gCAPITAL LETTER Z WITH DOT ABOVE,gSMALL LETTER Z WITH DOT ABOVE",
    "gCAPITAL LETTER Z WITH CARON,gSMALL LETTER Z WITH CARON,tLONG S,tB WITH STROKE",
    "gCAPITAL LETTER B WITH HOOK,zdTOPBAR,gSMALL LETTER B WITH TOPBAR,gCAPITAL LETTER TONE SIX",
    "gSMALL LETTER TONE SIX,gCAPITAL LETTER OPEN O,vC WITH HOOK,gSMALL LETTER C WITH HOOK",
    "gCAPITAL LETTER AFRICAN D,vD WITH HOOK,zdTOPBAR,gSMALL LETTER D WITH TOPBAR,tTURNED DELTA",
    "gCAPITAL LETTER REVERSED E,vSCHWA,vOPEN E,vF WITH HOOK,gSMALL LETTER F WITH HOOK",
    "gCAPITAL LETTER G WITH HOOK,wAMMA,gSMALL LETTER HV,gCAPITAL LETTER IOTA,w WITH STROKE",
    "vK WITH HOOK,gSMALL LETTER K WITH HOOK,tL WITH BAR,uAMBDA WITH STROKE,gCAPITAL LETTER TURNED M",
    "vN WITH LEFT HOOK,gSMALL LETTER N WITH LONG RIGHT LEG,gCAPITAL LETTER O WITH MIDDLE TILDE",
    "zdHORN,gSMALL LETTER O WITH HORN,gCAPITAL LETTER OI,gSMALL LETTER OI",
    "gCAPITAL LETTER P WITH HOOK,gSMALL LETTER P WITH HOOK,gLETTER YR,gCAPITAL LETTER TONE TWO",
    "gSMALL LETTER TONE TWO,gCAPITAL LETTER ESH,gLETTER REVERSED ESH LOOP",
    "gSMALL LETTER T WITH PALATAL HOOK,gCAPITAL LETTER T WITH HOOK,gSMALL LETTER T WITH HOOK",
    "gCAPITAL LETTER T WITH RETROFLEX HOOK,vU WITH HORN,gSMALL LETTER U WITH HORN",
    "gCAPITAL LETTER UPSILON,vV WITH HOOK,vY WITH HOOK,gSMALL LETTER Y WITH HOOK",
    "gCAPITAL LETTER Z WITH STROKE,gSMALL LETTER Z WITH STROKE,gCAPITAL LETTER EZH,y REVERSED",
    "gSMALL LETTER EZH REVERSED,xWITH TAIL,gLETTER TWO WITH STROKE,gCAPITAL LETTER TONE FIVE",
    "gSMALL LETTER TONE FIVE,gLETTER INVERTED GLOTTAL STOP WITH STROKE,nWYNN,nDENTAL CLICK",
    "nLATERAL CLICK,nALVEOLAR CLICK,nRETROFLEX CLICK,gCAPITAL LETTER DZ WITH CARON",
    "w WITH SMALL LETTER Z WITH CARON,gSMALL LETTER DZ WITH CARON,gCAPITAL LETTER LJ",
    "w WITH SMALL LETTER J,gSMALL LETTER LJ,gCAPITAL LETTER NJ,w WITH SMALL LETTER J",
    "gSMALL LETTER NJ,gCAPITAL LETTER A WITH CARON,gSMALL LETTER A WITH CARON",
    "gCAPITAL LETTER I WITH CARON,gSMALL LETTER I WITH CARON,gCAPITAL LETTER O WITH CARON",
    "gSMALL LETTER O WITH CARON,gCAPITAL LETTER U WITH CARON,gSMALL LETTER U WITH CARON",
    "gCAPITAL LETTER U WITH DIAERESIS AND MACRON,gSMALL LETTER U WITH DIAERESIS AND MACRON",
    "gCAPITAL LETTER U WITH DIAERESIS AND ACUTE,gSMALL LETTER U WITH DIAERESIS AND ACUTE",
    "gCAPITAL LETTER U WITH DIAERESIS AND CARON,gSMALL LETTER U WITH DIAERESIS AND CARON",
    "gCAPITAL LETTER U WITH DIAERESIS AND GRAVE,gSMALL LETTER U WITH DIAERESIS AND GRAVE,tTURNED E",
    "gCAPITAL LETTER A WITH DIAERESIS AND MACRON,gSMALL LETTER A WITH DIAERESIS AND MACRON",
    "gCAPITAL LETTER A WITH DOT ABOVE AND MACRON,gSMALL LETTER A WITH DOT ABOVE AND MACRON",
    "gCAPITAL LETTER AE WITH MACRON,gSMALL LETTER AE WITH MACRON,gCAPITAL LETTER G WITH STROKE",
    "gSMALL LETTER G WITH STROKE,gCAPITAL LETTER G WITH CARON,gSMALL LETTER G WITH CARON",
    "gCAPITAL LETTER K WITH CARON,gSMALL LETTER K WITH CARON,gCAPITAL LETTER O WITH OGONEK",
    "gSMALL LETTER O WITH OGONEK,gCAPITAL LETTER O WITH OGONEK AND MACRON",
    "gSMALL LETTER O WITH OGONEK AND MACRON,gCAPITAL LETTER EZH WITH CARON",
    "gSMALL LETTER EZH WITH CARON,tJ WITH CARON,gCAPITAL LETTER DZ,w WITH SMALL LETTER Z",
    "gSMALL LETTER DZ,gCAPITAL LETTER G WITH ACUTE,gSMALL LETTER G WITH ACUTE,gCAPITAL LETTER HWAIR",
    "vWYNN,vN WITH GRAVE,gSMALL LETTER N WITH GRAVE,gCAPITAL LETTER A WITH RING ABOVE AND ACUTE",
    "gSMALL LETTER A WITH RING ABOVE AND ACUTE,gCAPITAL LETTER AE WITH ACUTE",
    "gSMALL LETTER AE WITH ACUTE,gCAPITAL LETTER O WITH STROKE AND ACUTE",
    "gSMALL LETTER O WITH STROKE AND ACUTE,gCAPITAL LETTER A WITH DOUBLE GRAVE",
    "gSMALL LETTER A WITH DOUBLE GRAVE,gCAPITAL LETTER A WITH INVERTED BREVE",
    "gSMALL LETTER A WITH INVERTED BREVE,gCAPITAL LETTER E WITH DOUBLE GRAVE",
    "gSMALL LETTER E WITH DOUBLE GRAVE,gCAPITAL LETTER E WITH INVERTED BREVE",
    "gSMALL LETTER E WITH INVERTED BREVE,gCAPITAL LETTER I WITH DOUBLE GRAVE",
    "gSMALL LETTER I WITH DOUBLE GRAVE,gCAPITAL LETTER I WITH INVERTED BREVE",
    "gSMALL LETTER I WITH INVERTED BREVE,gCAPITAL LETTER O WITH DOUBLE GRAVE",
    "gSMALL LETTER O WITH DOUBLE GRAVE,gCAPITAL LETTER O WITH INVERTED BREVE",
    "gSMALL LETTER O WITH INVERTED BREVE,gCAPITAL LETTER R WITH DOUBLE GRAVE",
    "gSMALL LETTER R WITH DOUBLE GRAVE,gCAPITAL LETTER R WITH INVERTED BREVE",
    "gSMALL LETTER R WITH INVERTED BREVE,gCAPITAL LETTER U WITH DOUBLE GRAVE",
    "gSMALL LETTER U WITH DOUBLE GRAVE,gCAPITAL LETTER U WITH INVERTED BREVE",
    "gSMALL LETTER U WITH INVERTED BREVE,gCAPITAL LETTER S WITH COMMA BELOW",
    "gSMALL LETTER S WITH COMMA BELOW,gCAPITAL LETTER T WITH COMMA BELOW",
    "gSMALL LETTER T WITH COMMA BELOW,gCAPITAL LETTER YOGH,gSMALL LETTER YOGH",
    "gCAPITAL LETTER H WITH CARON,gSMALL LETTER H WITH CARON,gCAPITAL LETTER N WITH LONG RIGHT LEG",
    "gSMALL LETTER D WITH CURL,gCAPITAL LETTER OU,gSMALL LETTER OU,gCAPITAL LETTER Z WITH HOOK",
    "gSMALL LETTER Z WITH HOOK,gCAPITAL LETTER A WITH DOT ABOVE,gSMALL LETTER A WITH DOT ABOVE",
    "gCAPITAL LETTER E WITH CEDILLA,gSMALL LETTER E WITH CEDILLA",
    "gCAPITAL LETTER O WITH DIAERESIS AND MACRON,gSMALL LETTER O WITH DIAERESIS AND MACRON",
    "gCAPITAL LETTER O WITH TILDE AND MACRON,gSMALL LETTER O WITH TILDE AND MACRON",
    "gCAPITAL LETTER O WITH DOT ABOVE,gSMALL LETTER O WITH DOT ABOVE",
    "gCAPITAL LETTER O WITH DOT ABOVE AND MACRON,gSMALL LETTER O WITH DOT ABOVE AND MACRON",
    "gCAPITAL LETTER Y WITH MACRON,gSMALL LETTER Y WITH MACRON,tL WITH CURL,tN WITH CURL",
    "tT WITH CURL,tDOTLESS J,uB DIGRAPH,tQP DIGRAPH,gCAPITAL LETTER A WITH STROKE,vC WITH STROKE",
    "gSMALL LETTER C WITH STROKE,gCAPITAL LETTER L WITH BAR,vT WITH DIAGONAL STROKE",
    "gSMALL LETTER S WITH SWASH TAIL,tZ WITH SWASH TAIL,gCAPITAL LETTER GLOTTAL STOP",
    "gSMALL LETTER GLOTTAL STOP,gCAPITAL LETTER B WITH STROKE,vU BAR,vTURNED V,vE WITH STROKE",
    "gSMALL LETTER E WITH STROKE,gCAPITAL LETTER J WITH STROKE,gSMALL LETTER J WITH STROKE",
    "gCAPITAL LETTER SMALL Q WITH HOOK TAIL,gSMALL LETTER Q WITH HOOK TAIL",
    "gCAPITAL LETTER R WITH STROKE,gSMALL LETTER R WITH STROKE,gCAPITAL LETTER Y WITH STROKE",
    "gSMALL LETTER Y WITH STROKE,tTURNED A,tALPHA,tTURNED ALPHA,tB WITH HOOK,tOPEN O,tC WITH CURL",
    "tD WITH TAIL,zbHOOK,tREVERSED E,tSCHWA,y WITH HOOK,tOPEN E,tREVERSED OPEN E,zj WITH HOOK",
    "tCLOSED REVERSED OPEN E,tDOTLESS J WITH STROKE,tG WITH HOOK,tSCRIPT G,gLETTER SMALL CAPITAL G",
    "gSMALL LETTER GAMMA,tRAMS HORN,tTURNED H,tH WITH HOOK,uENG WITH HOOK,tI WITH STROKE,uOTA",
    "gLETTER SMALL CAPITAL I,gSMALL LETTER L WITH MIDDLE TILDE,zbBELT,zbRETROFLEX HOOK,uEZH",
    "tTURNED M,zc WITH LONG LEG,tM WITH HOOK,tN WITH LEFT HOOK,zbRETROFLEX HOOK",
    "gLETTER SMALL CAPITAL N,gSMALL LETTER BARRED O,gLETTER SMALL CAPITAL OE",
    "gSMALL LETTER CLOSED OMEGA,tPHI,tTURNED R,zc WITH LONG LEG,ziHOOK,tR WITH LONG LEG,zbTAIL",
    "zbFISHHOOK,uEVERSED R WITH FISHHOOK,gLETTER SMALL CAPITAL R,zcINVERTED R",
    "gSMALL LETTER S WITH HOOK,tESH,tDOTLESS J WITH STROKE AND HOOK,tSQUAT REVERSED ESH",
    "tESH WITH CURL,tTURNED T,u WITH RETROFLEX HOOK,tU BAR,uPSILON,tV WITH HOOK,tTURNED V,zbW,zbY",
    "gLETTER SMALL CAPITAL Y,gSMALL LETTER Z WITH RETROFLEX HOOK,zbCURL,tEZH,w WITH CURL",
    "gLETTER GLOTTAL STOP,nPHARYNGEAL VOICED FRICATIVE,nINVERTED GLOTTAL STOP,nSTRETCHED C",
    "nBILABIAL CLICK,nSMALL CAPITAL B,gSMALL LETTER CLOSED OPEN E,gLETTER SMALL CAPITAL G WITH HOOK",
    "zcH,gSMALL LETTER J WITH CROSSED-TAIL,tTURNED K,gLETTER SMALL CAPITAL L",
    "gSMALL LETTER Q WITH HOOK,gLETTER GLOTTAL STOP WITH STROKE,nREVERSED GLOTTAL STOP WITH STROKE",
    "gSMALL LETTER DZ DIGRAPH,uEZH DIGRAPH,uZ DIGRAPH WITH CURL,tTS DIGRAPH,uESH DIGRAPH",
    "uC DIGRAPH WITH CURL,tFENG DIGRAPH,tLS DIGRAPH,uZ DIGRAPH,gLETTER BILABIAL PERCUSSIVE",
    "pDENTAL PERCUSSIVE,gSMALL LETTER TURNED H WITH FISHHOOK,zq AND TAIL,aMODIFIER LETTER SMALL H",
    "x WITH HOOK,wJ,wR,wTURNED R,zf WITH HOOK,wCAPITAL INVERTED R,wW,wY,qPRIME,qDOUBLE PRIME",
    "qTURNED COMMA,qAPOSTROPHE,qREVERSED COMMA,rIGHT HALF RING,qLEFT HALF RING,qGLOTTAL STOP",
    "qREVERSED GLOTTAL STOP,qLEFT ARROWHEAD,qRIGHT ARROWHEAD,qUP ARROWHEAD,qDOWN ARROWHEAD",
    "qCIRCUMFLEX ACCENT,aCARON,aMODIFIER LETTER VERTICAL LINE,qMACRON,qACUTE ACCENT,qGRAVE ACCENT",
    "qLOW VERTICAL LINE,uMACRON,uGRAVE ACCENT,uACUTE ACCENT,qTRIANGULAR COLON",
    "qHALF TRIANGULAR COLON,qCENTRED RIGHT HALF RING,yLEFT HALF RING,qUP TACK,qDOWN TACK,qPLUS SIGN",
    "qMINUS SIGN,aBREVE,aDOT ABOVE,aRING ABOVE,aOGONEK,aSMALL TILDE,aDOUBLE ACUTE ACCENT",
    "aMODIFIER LETTER RHOTIC HOOK,qCROSS ACCENT,qSMALL GAMMA,wL,wS,wX,wREVERSED GLOTTAL STOP",
    "qEXTRA-HIGH TONE BAR,qHIGH TONE BAR,qMID TONE BAR,qLOW TONE BAR,qEXTRA-LOW TONE BAR",
    "qYIN DEPARTING TONE MARK,rANG DEPARTING TONE MARK,qVOICING,qUNASPIRATED,qDOUBLE APOSTROPHE",
    "qLOW DOWN ARROWHEAD,uUP ARROWHEAD,uLEFT ARROWHEAD,uRIGHT ARROWHEAD,wNG,qMIDDLE GRAVE ACCENT",
    "xDOUBLE GRAVE ACCENT,zfACUTE ACCENT,qLOW TILDE,qRAISED COLON,qBEGIN HIGH TONE,qEND HIGH TONE",
    "qBEGIN LOW TONE,qEND LOW TONE,qSHELF,qOPEN SHELF,qLOW LEFT ARROW,aCOMBINING GRAVE ACCENT",
    "kACUTE ACCENT,kCIRCUMFLEX ACCENT,kTILDE,kMACRON,kOVERLINE,kBREVE,kDOT ABOVE,lIAERESIS",
    "kHOOK ABOVE,kRING ABOVE,kDOUBLE ACUTE ACCENT,kCARON,kVERTICAL LINE ABOVE",
    "kDOUBLE VERTICAL LINE ABOVE,rGRAVE ACCENT,kCANDRABINDU,kINVERTED BREVE,kTURNED COMMA ABOVE",
    "kCOMMA ABOVE,kREVERSED COMMA ABOVE,kCOMMA ABOVE RIGHT,kGRAVE ACCENT BELOW,kACUTE ACCENT BELOW",
    "kLEFT TACK BELOW,kRIGHT TACK BELOW,kLEFT ANGLE ABOVE,kHORN,kLEFT HALF RING BELOW",
    "kUP TACK BELOW,kDOWN TACK BELOW,kPLUS SIGN BELOW,kMINUS SIGN BELOW,kPALATALIZED HOOK BELOW",
    "kRETROFLEX HOOK BELOW,kDOT BELOW,lIAERESIS BELOW,kRING BELOW,kCOMMA BELOW,lEDILLA,kOGONEK",
    "kVERTICAL LINE BELOW,kBRIDGE BELOW,kINVERTED DOUBLE ARCH BELOW,kCARON BELOW",
    "lIRCUMFLEX ACCENT BELOW,kBREVE BELOW,kINVERTED BREVE BELOW,kTILDE BELOW,kMACRON BELOW",
    "kLOW LINE,kDOUBLE LOW LINE,kTILDE OVERLAY,kSHORT STROKE OVERLAY,kLONG STROKE OVERLAY",
    "kSHORT SOLIDUS OVERLAY,kLONG SOLIDUS OVERLAY,kRIGHT HALF RING BELOW,kINVERTED BRIDGE BELOW",
    "kSQUARE BELOW,lEAGULL BELOW,kX ABOVE,kVERTICAL TILDE,kDOUBLE OVERLINE,kGRAVE TONE MARK",
    "kACUTE TONE MARK,kGREEK PERISPOMENI,qKORONIS,qDIALYTIKA TONOS,qYPOGEGRAMMENI,kBRIDGE ABOVE",
    "kEQUALS SIGN BELOW,kDOUBLE VERTICAL LINE BELOW,kLEFT ANGLE BELOW,kNOT TILDE ABOVE",
    "kHOMOTHETIC ABOVE,kALMOST EQUAL TO ABOVE,kLEFT RIGHT ARROW BELOW,kUPWARDS ARROW BELOW",
    "kGRAPHEME JOINER,kRIGHT ARROWHEAD ABOVE,kLEFT HALF RING ABOVE,kFERMATA,kX BELOW",
    "kLEFT ARROWHEAD BELOW,kRIGHT ARROWHEAD BELOW,zbAND UP ARROWHEAD BELOW,qHALF RING ABOVE",
    "kDOT ABOVE RIGHT,kASTERISK BELOW,kDOUBLE RING BELOW,kZIGZAG ABOVE,kDOUBLE BREVE BELOW,vE",
    "rMACRON,x BELOW,rTILDE,rINVERTED BREVE,rRIGHTWARDS ARROW BELOW,kLATIN SMALL LETTER A,zeE,zeI",
    "zeO,zeU,zeC,zeD,zeH,zeM,zeR,zeT,zeV,zeX,aGREEK CAPITAL LETTER HETA,gSMALL LETTER HETA",
    "gCAPITAL LETTER ARCHAIC SAMPI,gSMALL LETTER ARCHAIC SAMPI,gNUMERAL SIGN,gLOWER NUMERAL SIGN",
    "gCAPITAL LETTER PAMPHYLIAN DIGAMMA,gSMALL LETTER PAMPHYLIAN DIGAMMA,=37AgYPOGEGRAMMENI",
    "gSMALL REVERSED LUNATE SIGMA SYMBOL,mDOTTED LUNATE SIGMA SYMBOL",
    "mREVERSED DOTTED LUNATE SIGMA SYMBOL,gQUESTION MARK,gCAPITAL LETTER YOT,=384gTONOS",
    "gDIALYTIKA TONOS,gCAPITAL LETTER ALPHA WITH TONOS,gANO TELEIA",
    "gCAPITAL LETTER EPSILON WITH TONOS,wTA WITH TONOS,vIOTA WITH TONOS,=38CvOMICRON WITH TONOS",
    "=38EvUPSILON WITH TONOS,vOMEGA WITH TONOS,gSMALL LETTER IOTA WITH DIALYTIKA AND TONOS",
    "gCAPITAL LETTER ALPHA,vBETA,vGAMMA,vDELTA,vEPSILON,vZETA,vETA,vTHETA,vIOTA,vKAPPA,vLAMDA,vMU",
    "vNU,vXI,vOMICRON,vPI,vRHO,=3A3vSIGMA,vTAU,vUPSILON,vPHI,vCHI,vPSI,vOMEGA,vIOTA WITH DIALYTIKA",
    "vUPSILON WITH DIALYTIKA,gSMALL LETTER ALPHA WITH TONOS,tEPSILON WITH TONOS,uTA WITH TONOS",
    "tIOTA WITH TONOS,tUPSILON WITH DIALYTIKA AND TONOS,tALPHA,tBETA,tGAMMA,tDELTA,tEPSILON,tZETA",
    "tETA,tTHETA,tIOTA,tKAPPA,tLAMDA,tMU,tNU,tXI,tOMICRON,tPI,tRHO,tFINAL SIGMA,tSIGMA,tTAU",
    "tUPSILON,tPHI,tCHI,tPSI,tOMEGA,tIOTA WITH DIALYTIKA,tUPSILON WITH DIALYTIKA",
    "tOMICRON WITH TONOS,tUPSILON WITH TONOS,tOMEGA WITH TONOS,gCAPITAL KAI SYMBOL,gBETA SYMBOL",
    "gTHETA SYMBOL,gUPSILON WITH HOOK SYMBOL,tACUTE AND HOOK SYMBOL,tDIAERESIS AND HOOK SYMBOL",
    "gPHI SYMBOL,hI SYMBOL,gKAI SYMBOL,gLETTER ARCHAIC KOPPA,gSMALL LETTER ARCHAIC KOPPA",
    "gLETTER STIGMA,gSMALL LETTER STIGMA,gLETTER DIGAMMA,gSMALL LETTER DIGAMMA,gLETTER KOPPA",
    "gSMALL LETTER KOPPA,gLETTER SAMPI,gSMALL LETTER SAMPI,aCOPTIC CAPITAL LETTER SHEI",
    "hSMALL LETTER SHEI,hCAPITAL LETTER FEI,hSMALL LETTER FEI,hCAPITAL LETTER KHEI",
    "hSMALL LETTER KHEI,hCAPITAL LETTER HORI,hSMALL LETTER HORI,hCAPITAL LETTER GANGIA",
    "hSMALL LETTER GANGIA,hCAPITAL LETTER SHIMA,hSMALL LETTER SHIMA,hCAPITAL LETTER DEI",
    "hSMALL LETTER DEI,aGREEK KAPPA SYMBOL,gRHO SYMBOL,gLUNATE SIGMA SYMBOL,hETTER YOT",
    "gCAPITAL THETA SYMBOL,gLUNATE EPSILON SYMBOL,gREVERSED LUNATE EPSILON SYMBOL",
    "gCAPITAL LETTER SHO,gSMALL LETTER SHO,gCAPITAL LUNATE SIGMA SYMBOL,pETTER SAN",
    "gSMALL LETTER SAN,gRHO WITH STROKE SYMBOL,gCAPITAL REVERSED LUNATE SIGMA SYMBOL",
    "oDOTTED LUNATE SIGMA SYMBOL,oREVERSED DOTTED LUNATE SIGMA SYMBOL",
    "aCYRILLIC CAPITAL LETTER IE WITH GRAVE,zO,yDJE,yGJE,yUKRAINIAN IE,yDZE",
    "yBYELORUSSIAN-UKRAINIAN I,yYI,yJE,yLJE,yNJE,yTSHE,yKJE,yI WITH GRAVE,ySHORT U,yDZHE,yA,yBE,yVE",
    "yGHE,yDE,yIE,yZHE,zE,yI,ySHORT I,yKA,yEL,zM,zN,yO,yPE,yER,zS,yTE,yU,yEF,yHA,yTSE,yCHE,ySHA",
    "zbCHA,yHARD SIGN,yYERU,ySOFT SIGN,yE,yYU,zA,jSMALL LETTER A,wBE,wVE,wGHE,wDE,wIE,wZHE,xE,wI",
    "wSHORT I,wKA,wEL,xM,xN,wO,wPE,wER,xS,wTE,wU,wEF,wHA,wTSE,wCHE,wSHA,yCHA,wHARD SIGN,wYERU",
    "wSOFT SIGN,wE,wYU,xA,wIE WITH GRAVE,xO,wDJE,wGJE,wUKRAINIAN IE,wDZE,wBYELORUSSIAN-UKRAINIAN I",
    "wYI,wJE,wLJE,wNJE,wTSHE,wKJE,wI WITH GRAVE,wSHORT U,wDZHE,jCAPITAL LETTER OMEGA",
    "jSMALL LETTER OMEGA,jCAPITAL LETTER YAT,jSMALL LETTER YAT,jCAPITAL LETTER IOTIFIED E",
    "jSMALL LETTER IOTIFIED E,jCAPITAL LETTER LITTLE YUS,jSMALL LETTER LITTLE YUS",
    "jCAPITAL LETTER IOTIFIED LITTLE YUS,jSMALL LETTER IOTIFIED LITTLE YUS,jCAPITAL LETTER BIG YUS",
    "jSMALL LETTER BIG YUS,jCAPITAL LETTER IOTIFIED BIG YUS,jSMALL LETTER IOTIFIED BIG YUS",
    "jCAPITAL LETTER KSI,jSMALL LETTER KSI,jCAPITAL LETTER PSI,jSMALL LETTER PSI",
    "jCAPITAL LETTER FITA,jSMALL LETTER FITA,jCAPITAL LETTER IZHITSA,jSMALL LETTER IZHITSA",
    "jCAPITAL LETTER IZHITSA WITH DOUBLE GRAVE ACCENT",
    "jSMALL LETTER IZHITSA WITH DOUBLE GRAVE ACCENT,jCAPITAL LETTER UK,jSMALL LETTER UK",
    "jCAPITAL LETTER ROUND OMEGA,jSMALL LETTER ROUND OMEGA,jCAPITAL LETTER OMEGA WITH TITLO",
    "jSMALL LETTER OMEGA WITH TITLO,jCAPITAL LETTER OT,jSMALL LETTER OT,jCAPITAL LETTER KOPPA",
    "jSMALL LETTER KOPPA,jTHOUSANDS SIGN,bOMBINING CYRILLIC TITLO,tPALATALIZATION,tDASIA PNEUMATA",
    "tPSILI PNEUMATA,uOKRYTIE,tHUNDRED THOUSANDS SIGN,tMILLIONS SIGN",
    "bYRILLIC CAPITAL LETTER SHORT I WITH TAIL,jSMALL LETTER SHORT I WITH TAIL",
    "jCAPITAL LETTER SEMISOFT SIGN,jSMALL LETTER SEMISOFT SIGN,jCAPITAL LETTER ER WITH TICK",
    "jSMALL LETTER ER WITH TICK,jCAPITAL LETTER GHE WITH UPTURN,jSMALL LETTER GHE WITH UPTURN",
    "jCAPITAL LETTER GHE WITH STROKE,jSMALL LETTER GHE WITH STROKE",
    "jCAPITAL LETTER GHE WITH MIDDLE HOOK,jSMALL LETTER GHE WITH MIDDLE HOOK",
    "jCAPITAL LETTER ZHE WITH DESCENDER,jSMALL LETTER ZHE WITH DESCENDER",
    "jCAPITAL LETTER ZE WITH DESCENDER,jSMALL LETTER ZE WITH DESCENDER",
    "jCAPITAL LETTER KA WITH DESCENDER,jSMALL LETTER KA WITH DESCENDER",
    "jCAPITAL LETTER KA WITH VERTICAL STROKE,jSMALL LETTER KA WITH VERTICAL STROKE",
    "jCAPITAL LETTER KA WITH STROKE,jSMALL LETTER KA WITH STROKE,jCAPITAL LETTER BASHKIR KA",
    "jSMALL LETTER BASHKIR KA,jCAPITAL LETTER EN WITH DESCENDER,jSMALL LETTER EN WITH DESCENDER",
    "jCAPITAL LIGATURE EN GHE,jSMALL LIGATURE EN GHE,jCAPITAL LETTER PE WITH MIDDLE HOOK",
    "jSMALL LETTER PE WITH MIDDLE HOOK,jCAPITAL LETTER ABKHASIAN HA,jSMALL LETTER ABKHASIAN HA",
    "jCAPITAL LETTER ES WITH DESCENDER,jSMALL LETTER ES WITH DESCENDER",
    "jCAPITAL LETTER TE WITH DESCENDER,jSMALL LETTER TE WITH DESCENDER,jCAPITAL LETTER STRAIGHT U",
    "jSMALL LETTER STRAIGHT U,jCAPITAL LETTER STRAIGHT U WITH STROKE",
    "jSMALL LETTER STRAIGHT U WITH STROKE,jCAPITAL LETTER HA WITH DESCENDER",
    "jSMALL LETTER HA WITH DESCENDER,jCAPITAL LIGATURE TE TSE,jSMALL LIGATURE TE TSE",
    "jCAPITAL LETTER CHE WITH DESCENDER,jSMALL LETTER CHE WITH DESCENDER",
    "jCAPITAL LETTER CHE WITH VERTICAL STROKE,jSMALL LETTER CHE WITH VERTICAL STROKE",
    "jCAPITAL LETTER SHHA,jSMALL LETTER SHHA,jCAPITAL LETTER ABKHASIAN CHE",
    "jSMALL LETTER ABKHASIAN CHE,jCAPITAL LETTER ABKHASIAN CHE WITH DESCENDER",
    "jSMALL LETTER ABKHASIAN CHE WITH DESCENDER,jLETTER PALOCHKA,jCAPITAL LETTER ZHE WITH BREVE",
    "jSMALL LETTER ZHE WITH BREVE,jCAPITAL LETTER KA WITH HOOK,jSMALL LETTER KA WITH HOOK",
    "jCAPITAL LETTER EL WITH TAIL,jSMALL LETTER EL WITH TAIL,jCAPITAL LETTER EN WITH HOOK",
    "jSMALL LETTER EN WITH HOOK,jCAPITAL LETTER EN WITH TAIL,jSMALL LETTER EN WITH TAIL",
    "jCAPITAL LETTER KHAKASSIAN CHE,jSMALL LETTER KHAKASSIAN CHE,jCAPITAL LETTER EM WITH TAIL",
    "jSMALL LETTER EM WITH TAIL,wPALOCHKA,jCAPITAL LETTER A WITH BREVE,jSMALL LETTER A WITH BREVE",
    "jCAPITAL LETTER A WITH DIAERESIS,jSMALL LETTER A WITH DIAERESIS,jCAPITAL LIGATURE A IE",
    "jSMALL LIGATURE A IE,jCAPITAL LETTER IE WITH BREVE,jSMALL LETTER IE WITH BREVE",
    "jCAPITAL LETTER SCHWA,jSMALL LETTER SCHWA,jCAPITAL LETTER SCHWA WITH DIAERESIS",
    "jSMALL LETTER SCHWA WITH DIAERESIS,jCAPITAL LETTER ZHE WITH DIAERESIS",
    "jSMALL LETTER ZHE WITH DIAERESIS,jCAPITAL LETTER ZE WITH DIAERESIS",
    "jSMALL LETTER ZE WITH DIAERESIS,jCAPITAL LETTER ABKHASIAN DZE,jSMALL LETTER ABKHASIAN DZE",
    "jCAPITAL LETTER I WITH MACRON,jSMALL LETTER I WITH MACRON,jCAPITAL LETTER I WITH DIAERESIS",
    "jSMALL LETTER I WITH DIAERESIS,jCAPITAL LETTER O WITH DIAERESIS,jSMALL LETTER O WITH DIAERESIS",
    "jCAPITAL LETTER BARRED O,jSMALL LETTER BARRED O,jCAPITAL LETTER BARRED O WITH DIAERESIS",
    "jSMALL LETTER BARRED O WITH DIAERESIS,jCAPITAL LETTER E WITH DIAERESIS",
    "jSMALL LETTER E WITH DIAERESIS,jCAPITAL LETTER U WITH MACRON,jSMALL LETTER U WITH MACRON",
    "jCAPITAL LETTER U WITH DIAERESIS,jSMALL LETTER U WITH DIAERESIS",
    "jCAPITAL LETTER U WITH DOUBLE ACUTE,jSMALL LETTER U WITH DOUBLE ACUTE",
    "jCAPITAL LETTER CHE WITH DIAERESIS,jSMALL LETTER CHE WITH DIAERESIS",
    "jCAPITAL LETTER GHE WITH DESCENDER,jSMALL LETTER GHE WITH DESCENDER",
    "jCAPITAL LETTER YERU WITH DIAERESIS,jSMALL LETTER YERU WITH DIAERESIS",
    "jCAPITAL LETTER GHE WITH STROKE AND HOOK,jSMALL LETTER GHE WITH STROKE AND HOOK",
    "jCAPITAL LETTER HA WITH HOOK,jSMALL LETTER HA WITH HOOK,jCAPITAL LETTER HA WITH STROKE",
    "jSMALL LETTER HA WITH STROKE,jCAPITAL LETTER KOMI DE,jSMALL LETTER KOMI DE",
    "jCAPITAL LETTER KOMI DJE,jSMALL LETTER KOMI DJE,jCAPITAL LETTER KOMI ZJE",
    "jSMALL LETTER KOMI ZJE,jCAPITAL LETTER KOMI DZJE,jSMALL LETTER KOMI DZJE",
    "jCAPITAL LETTER KOMI LJE,jSMALL LETTER KOMI LJE,jCAPITAL LETTER KOMI NJE",
    "jSMALL LETTER KOMI NJE,jCAPITAL LETTER KOMI SJE,jSMALL LETTER KOMI SJE",
    "jCAPITAL LETTER KOMI TJE,jSMALL LETTER KOMI TJE,jCAPITAL LETTER REVERSED ZE",
    "jSMALL LETTER REVERSED ZE,jCAPITAL LETTER EL WITH HOOK,jSMALL LETTER EL WITH HOOK",
    "jCAPITAL LETTER LHA,jSMALL LETTER LHA,jCAPITAL LETTER RHA,jSMALL LETTER RHA",
    "jCAPITAL LETTER YAE,jSMALL LETTER YAE,jCAPITAL LETTER QA,jSMALL LETTER QA,jCAPITAL LETTER WE",
    "jSMALL LETTER WE,jCAPITAL LETTER ALEUT KA,jSMALL LETTER ALEUT KA",
    "jCAPITAL LETTER EL WITH MIDDLE HOOK,jSMALL LETTER EL WITH MIDDLE HOOK",
    "jCAPITAL LETTER EN WITH MIDDLE HOOK,jSMALL LETTER EN WITH MIDDLE HOOK",
    "jCAPITAL LETTER PE WITH DESCENDER,jSMALL LETTER PE WITH DESCENDER",
    "jCAPITAL LETTER SHHA WITH DESCENDER,jSMALL LETTER SHHA WITH DESCENDER",
    "jCAPITAL LETTER EN WITH LEFT HOOK,jSMALL LETTER EN WITH LEFT HOOK,jCAPITAL LETTER DZZHE",
    "jSMALL LETTER DZZHE,jCAPITAL LETTER DCHE,jSMALL LETTER DCHE,jCAPITAL LETTER EL WITH DESCENDER",
    "jSMALL LETTER EL WITH DESCENDER,=531aARMENIAN CAPITAL LETTER AYB,yBEN,yGIM,yDA,yECH,yZA,yEH,zT",
    "yTO,yZHE,yINI,yLIWN,yXEH,yCA,yKEN,yHO,yJA,yGHAD,yCHEH,yMEN,yYI,yNOW,ySHA,yVO,yCHA,yPEH,yJHEH",
    "yRA,ySEH,yVEW,yTIWN,yREH,yCO,yYIWN,yPIWR,yKEH,yOH,yFEH,=559jMODIFIER LETTER LEFT HALF RING",
    "jAPOSTROPHE,jEMPHASIS MARK,kXCLAMATION MARK,jCOMMA,jQUESTION MARK,jABBREVIATION MARK",
    "jSMALL LETTER TURNED AYB,wAYB,wBEN,wGIM,wDA,wECH,wZA,wEH,xT,wTO,wZHE,wINI,wLIWN,wXEH,wCA,wKEN",
    "wHO,wJA,wGHAD,wCHEH,wMEN,wYI,wNOW,wSHA,wVO,wCHA,wPEH,wJHEH,wRA,wSEH,wVEW,wTIWN,wREH,wCO,wYIWN",
    "wPIWR,wKEH,wOH,wFEH,qIGATURE ECH YIWN,qETTER YI WITH STROKE,jFULL STOP,jHYPHEN",
    "=58DaRIGHT-FACING ARMENIAN ETERNITY SIGN,aLEFT-FACING ARMENIAN ETERNITY SIGN",
    "aARMENIAN DRAM SIGN,=591aHEBREW ACCENT ETNAHTA,oSEGOL,pHALSHELET,oZAQEF QATAN,uGADOL,oTIPEHA",
    "oREVIA,oZARQA,oPASHTA,oYETIV,oTEVIR,oGERESH,u MUQDAM,rSHAYIM,oQARNEY PARA,oTELISHA GEDOLA",
    "oPAZER,oATNAH HAFUKH,oMUNAH,pAHAPAKH,pERKHA,u KEFULA,oDARGA,oQADMA,oTELISHA QETANA",
    "oYERAH BEN YOMO,oOLE,oILUY,oDEHI,oZINOR,hMARK MASORA CIRCLE,hPOINT SHEVA,nHATAF SEGOL,tPATAH",
    "tQAMATS,oIRIQ,nTSERE,nSEGOL,nPATAH,nQAMATS,nHOLAM,s HASER FOR VAV,nQUBUTS,nDAGESH OR MAPIQ",
    "nMETEG,iUNCTUATION MAQAF,iOINT RAFE,iUNCTUATION PASEQ,iOINT SHIN DOT,oIN DOT",
    "iUNCTUATION SOF PASUQ,hMARK UPPER DOT,mLOWER DOT,hPUNCTUATION NUN HAFUKHA,iOINT QAMATS QATAN",
    "=5D0hLETTER ALEF,oBET,oGIMEL,oDALET,oHE,oVAV,oZAYIN,oHET,oTET,oYOD,oFINAL KAF,oKAF,oLAMED",
    "oFINAL MEM,oMEM,oFINAL NUN,oNUN,oSAMEKH,oAYIN,oFINAL PE,oPE,oFINAL TSADI,oTSADI,oQOF,oRESH",
    "oSHIN,oTAV,=5EFhYOD TRIANGLE,hLIGATURE YIDDISH DOUBLE VAV,yVAV YOD,yDOUBLE YOD",
    "hPUNCTUATION GERESH,wSHAYIM,=600aARABIC NUMBER SIGN,hSIGN SANAH,hFOOTNOTE MARKER,hSIGN SAFHA",
    "oMVAT,hNUMBER MARK ABOVE,g-INDIC CUBE ROOT,nFOURTH ROOT,g RAY,g-INDIC PER MILLE SIGN",
    "rTEN THOUSAND SIGN,bFGHANI SIGN,bRABIC COMMA,hDATE SEPARATOR,hPOETIC VERSE SIGN,hSIGN MISRA",
    "mSALLALLAHOU ALAYHE WASSALLAM,mALAYHE ASSALLAM,mRAHMATULLAH ALAYHE,oDI ALLAHOU ANHU,mTAKHALLUS",
    "iMALL HIGH TAH,sLIGATURE ALEF WITH LAM WITH YEH,sZAIN,nFATHA,nDAMMA,nKASRA,iEMICOLON",
    "hLETTER MARK,hEND OF TEXT MARK,hTRIPLE DOT PUNCTUATION MARK,hQUESTION MARK",
    "hLETTER KASHMIRI YEH,oHAMZA,oALEF WITH MADDA ABOVE,yHAMZA ABOVE,oWAW WITH HAMZA ABOVE",
    "oALEF WITH HAMZA BELOW,oYEH WITH HAMZA ABOVE,oALEF,oBEH,oTEH MARBUTA,qH,pHEH,oJEEM,oHAH,oKHAH",
    "oDAL,oTHAL,oREH,oZAIN,oSEEN,pHEEN,pAD,oDAD,oTAH,oZAH,oAIN,oGHAIN,oKEHEH WITH TWO DOTS ABOVE",
    "zbHREE DOTS BELOW,oFARSI YEH WITH INVERTED V,zeTWO DOTS ABOVE,zfHREE DOTS ABOVE,hTATWEEL",
    "hLETTER FEH,oQAF,oKAF,oLAM,oMEEM,oNOON,oHEH,oWAW,oALEF MAKSURA,oYEH,hFATHATAN,hDAMMATAN",
    "hKASRATAN,hFATHA,hDAMMA,hKASRA,hSHADDA,iUKUN,hMADDAH ABOVE,hHAMZA ABOVE,nBELOW,hSUBSCRIPT ALEF",
    "hINVERTED DAMMA,hMARK NOON GHUNNA,hZWARAKAY,hVOWEL SIGN SMALL V ABOVE,sINVERTED SMALL V ABOVE",
    "sDOT BELOW,hREVERSED DAMMA,hFATHA WITH TWO DOTS,hWAVY HAMZA BELOW,g-INDIC DIGIT ZERO,tONE,tTWO",
    "uHREE,tFOUR,uIVE,tSIX,uEVEN,tEIGHT,tNINE,g PERCENT SIGN,hDECIMAL SEPARATOR",
    "hTHOUSANDS SEPARATOR,hFIVE POINTED STAR,hLETTER DOTLESS BEH,wQAF,oSUPERSCRIPT ALEF,oALEF WASLA",
    "uITH WAVY HAMZA ABOVE,zkBELOW,oHIGH HAMZA,y ALEF,zWAW,oU WITH HAMZA ABOVE,oHIGH HAMZA YEH",
    "oTTEH,sEH,oBEEH,oTEH WITH RING,xTHREE DOTS ABOVE DOWNWARDS,oPEH,oTEHEH,oBEHEH",
    "oHAH WITH HAMZA ABOVE,xTWO DOTS VERTICAL ABOVE,oNYEH,oDYEH,oHAH WITH THREE DOTS ABOVE,oTCHEH",
    "tEH,oDDAL,pAL WITH RING,xDOT BELOW,zh AND SMALL TAH,qHAL,pDAHAL,pUL",
    "pAL WITH THREE DOTS ABOVE DOWNWARDS,xFOUR DOTS ABOVE,oRREH,pEH WITH SMALL V,xRING,xDOT BELOW",
    "xSMALL V BELOW,xDOT BELOW AND DOT ABOVE,xTWO DOTS ABOVE,oJEH,oREH WITH FOUR DOTS ABOVE",
    "oSEEN WITH DOT BELOW AND DOT ABOVE,yTHREE DOTS BELOW,zp AND THREE DOTS ABOVE",
    "pAD WITH TWO DOTS BELOW,yHREE DOTS ABOVE,oTAH WITH THREE DOTS ABOVE,oAIN WITH THREE DOTS ABOVE",
    "oDOTLESS FEH,oFEH WITH DOT MOVED BELOW,zcBELOW,oVEH,oFEH WITH THREE DOTS BELOW,oPEHEH",
    "oQAF WITH DOT ABOVE,xTHREE DOTS ABOVE,oKEHEH,oSWASH KAF,oKAF WITH RING,xDOT ABOVE,oNG",
    "oKAF WITH THREE DOTS BELOW,oGAF,r WITH RING,oNGOEH,oGAF WITH TWO DOTS BELOW,pUEH",
    "pAF WITH THREE DOTS ABOVE,oLAM WITH SMALL V,xDOT ABOVE,xTHREE DOTS ABOVE,zjBELOW",
    "oNOON WITH DOT BELOW,tGHUNNA,oRNOON,oNOON WITH RING,yTHREE DOTS ABOVE,oHEH DOACHASHMEE",
    "oTCHEH WITH DOT ABOVE,oHEH WITH YEH ABOVE,sGOAL,w WITH HAMZA ABOVE,oTEH MARBUTA GOAL",
    "oWAW WITH RING,oKIRGHIZ OE,oOE,oU,oYU,oKIRGHIZ YU,oWAW WITH TWO DOTS ABOVE,oVE,oFARSI YEH",
    "oYEH WITH TAIL,xSMALL V,oWAW WITH DOT ABOVE,oE,oYEH WITH THREE DOTS BELOW,sBARREE",
    "y WITH HAMZA ABOVE,hFULL STOP,hLETTER AE,hSMALL HIGH LIGATURE SAD WITH LAM WITH ALEF MAKSURA",
    "zcQAF WITH LAM WITH ALEF MAKSURA,sMEEM INITIAL FORM,sLAM ALEF,sJEEM,sTHREE DOTS,sSEEN",
    "hEND OF AYAH,hSTART OF RUB EL HIZB,iMALL HIGH ROUNDED ZERO,sUPRIGHT RECTANGULAR ZERO",
    "sDOTLESS HEAD OF KHAH,sMEEM ISOLATED FORM,nLOW SEEN,nHIGH MADDA,nWAW,nYEH,nHIGH YEH,sNOON",
    "hPLACE OF SAJDAH,hEMPTY CENTRE LOW STOP,uHIGH STOP,hROUNDED HIGH STOP WITH FILLED CENTRE",
    "hSMALL LOW MEEM,hLETTER DAL WITH INVERTED V,oREH WITH INVERTED V",
    "aEXTENDED ARABIC-INDIC DIGIT ZERO,zdONE,zdTWO,zeHREE,zdFOUR,zeIVE,zdSIX,zeEVEN,zdEIGHT,zdNINE",
    "aARABIC LETTER SHEEN WITH DOT BELOW,oDAD WITH DOT BELOW,oGHAIN WITH DOT BELOW",
    "hSIGN SINDHI AMPERSAND,tPOSTPOSITION MEN,hLETTER HEH WITH INVERTED V,aSYRIAC END OF PARAGRAPH",
    "hSUPRALINEAR FULL STOP,jBLINEAR FULL STOP,jPRALINEAR COLON,jBLINEAR COLON,hHORIZONTAL COLON",
    "hCOLON SKEWED LEFT,uRIGHT,hSUPRALINEAR COLON SKEWED LEFT,jBLINEAR COLON SKEWED RIGHT",
    "hCONTRACTION,hHARKLEAN OBELUS,qMETOBELUS,qASTERISCUS,=70FhABBREVIATION MARK,hLETTER ALAPH",
    "oSUPERSCRIPT ALAPH,oBETH,oGAMAL,t GARSHUNI,oDALATH,pOTLESS DALATH RISH,oHE,oWAW,oZAIN,oHETH",
    "oTETH,s GARSHUNI,oYUDH,s HE,oKAPH,oLAMADH,oMIM,oNUN,oSEMKATH,oFINAL SEMKATH,oE,oPE",
    "oREVERSED PE,oSADHE,oQAPH,oRISH,oSHIN,oTAW,oPERSIAN BHETH,wGHAMAL,wDHALATH,hPTHAHA ABOVE",
    "oBELOW,oDOTTED,hZQAPHA ABOVE,oBELOW,oDOTTED,hRBASA ABOVE,nBELOW,hDOTTED ZLAMA HORIZONTAL",
    "uANGULAR,hHBASA ABOVE,nBELOW,m-ESASA DOTTED,hESASA ABOVE,nBELOW,hRWAHA,hFEMININE DOT",
    "hQUSHSHAYA,hRUKKAKHA,hTWO VERTICAL DOTS ABOVE,zBELOW,iHREE DOTS ABOVE,sBELOW",
    "hOBLIQUE LINE ABOVE,uBELOW,hMUSIC,hBARREKH,=74DhLETTER SOGDIAN ZHAIN,wKHAPH,wFE",
    "aARABIC LETTER BEH WITH THREE DOTS HORIZONTALLY BELOW,xDOT BELOW AND THREE DOTS ABOVE",
    "xTHREE DOTS POINTING UPWARDS BELOW,zzg AND TWO DOTS ABOVE,yWO DOTS BELOW AND DOT ABOVE",
    "xINVERTED SMALL V BELOW,xSMALL V,oHAH WITH TWO DOTS ABOVE,yHREE DOTS POINTING UPWARDS BELOW",
    "oDAL WITH TWO DOTS VERTICALLY BELOW AND SMALL TAH,xINVERTED SMALL V BELOW,oREH WITH STROKE",
    "oSEEN WITH FOUR DOTS ABOVE,oAIN WITH TWO DOTS ABOVE,yHREE DOTS POINTING DOWNWARDS ABOVE",
    "yWO DOTS VERTICALLY ABOVE,oFEH WITH TWO DOTS BELOW,yHREE DOTS POINTING UPWARDS BELOW",
    "oKEHEH WITH DOT ABOVE,zTHREE DOTS ABOVE,zlPOINTING UPWARDS BELOW,oMEEM WITH DOT ABOVE,zdBELOW",
    "oNOON WITH TWO DOTS BELOW,ySMALL TAH,zfV,oLAM WITH BAR,oREH WITH TWO DOTS VERTICALLY ABOVE",
    "xHAMZA ABOVE,oSEEN WITH TWO DOTS VERTICALLY ABOVE,oHAH WITH SMALL ARABIC LETTER TAH BELOW",
    "zwAND TWO DOTS,oSEEN WITH SMALL ARABIC LETTER TAH AND TWO DOTS",
    "oREH WITH SMALL ARABIC LETTER TAH AND TWO DOTS,oHAH WITH SMALL ARABIC LETTER TAH ABOVE",
    "oALEF WITH EXTENDED ARABIC-INDIC DIGIT TWO ABOVE,zzdHREE ABOVE",
    "oFARSI YEH WITH EXTENDED ARABIC-INDIC DIGIT TWO ABOVE,zziHREE ABOVE,zzhFOUR BELOW",
    "oWAW WITH EXTENDED ARABIC-INDIC DIGIT TWO ABOVE,zzcHREE ABOVE",
    "oYEH BARREE WITH EXTENDED ARABIC-INDIC DIGIT TWO ABOVE,zzjHREE ABOVE",
    "oHAH WITH EXTENDED ARABIC-INDIC DIGIT FOUR BELOW",
    "oSEEN WITH EXTENDED ARABIC-INDIC DIGIT FOUR ABOVE,yINVERTED V,oKAF WITH TWO DOTS ABOVE",
    "aTHAANA LETTER HAA,oSHAVIYANI,oNOONU,oRAA,oBAA,oLHAVIYANI,oKAAFU,oALIFU,oVAAVU,oMEEMU,oFAAFU",
    "oDHAALU,oTHAA,oLAAMU,oGAAFU,pNAVIYANI,oSEENU,oDAVIYANI,oZAVIYANI,oTAVIYANI,oYAA,oPAVIYANI",
    "oJAVIYANI,oCHAVIYANI,oTTAA,oHHAA,oKHAA,oTHAALU,oZAA,oSHEENU,pAADHU,oDAADHU,oTO,oZO,oAINU",
    "oGHAINU,oQAAFU,oWAAVU,hABAFILI,iABAAFILI,hIBIFILI,hEEBEEFILI,hUBUFILI,hOOBOOFILI,hEBEFILI",
    "iYBEYFILI,hOBOFILI,iABOAFILI,hSUKUN,hLETTER NAA,=7C0aNKO DIGIT ZERO,kONE,kTWO,lHREE,kFOUR,lIVE",
    "kSIX,lEVEN,kEIGHT,kNINE,eLETTER A,lEE,lI,lE,lU,lOO,lO,lDAGBASINNA,lN,lBA,lPA,lTA,lJA,lCHA,lDA",
    "lRA,mRA,lSA,lGBA,lFA,lKA,lLA,lNA WOLOSO,lMA,lNYA,mA,lHA,lWA,lYA,lNYA WOLOSO,lJONA JA,qCHA,qRA",
    "eCOMBINING SHORT HIGH TONE,uLOW TONE,uRISING TONE,oLONG DESCENDING TONE,tHIGH TONE,tLOW TONE",
    "tRISING TONE,oNASALIZATION MARK,oDOUBLE DOT ABOVE,eHIGH TONE APOSTROPHE,eLOW TONE APOSTROPHE",
    "eSYMBOL OO DENNEN,lGBAKURUNEN,eCOMMA,eEXCLAMATION MARK,eLAJANYALAN,=7FDeDANTAYALAN,fOROME SIGN",
    "eTAMAN SIGN,aSAMARITAN LETTER ALAF,rBIT,rGAMAN,rDALAT,rIY,rBAA,rZEN,rIT,rTIT,rYUT,rKAAF,rLABAT",
    "rMIM,rNUN,rSINGAAT,rIN,rFI,rTSAADIY,rQUF,rRISH,rSHAN,rTAAF,kMARK IN,r-ALAF,pOCCLUSION,pDAGESH",
    "lODIFIER LETTER EPENTHETIC YUT,lARK EPENTHETIC YUT,kVOWEL SIGN LONG E,vE,vOVERLONG AA,vLONG AA",
    "vAA,vOVERLONG A,vLONG A,vA,kMODIFIER LETTER SHORT A,kVOWEL SIGN SHORT A,vLONG U,vU",
    "kMODIFIER LETTER I,kVOWEL SIGN LONG I,vI,vO,vSUKUN,kMARK NEQUDAA,=830kPUNCTUATION NEQUDAA",
    "wAFSAAQ,xNGED,wBAU,wATMAAU,wSHIYYAALAA,kABBREVIATION MARK,kPUNCTUATION MELODIC QITSA,wZIQAA",
    "wQITSA,wZAEF,wTURU,wARKAANU,wSOF MASHFAAT,wANNAAU,=840aMANDAIC LETTER HALQA,pAB,qG,qD,qH",
    "pUSHENNA,pAZ,pIT,pATT,qKSA,qK,qL,qM,qN,qS,pIN,pAP,qSZ,qQ,qR,qSH,qT,pDUSHENNA,pKAD,pAIN",
    "iAFFRICATION MARK,iVOCALIZATION MARK,iGEMINATION MARK,=85EiPUNCTUATION",
    "=860aSYRIAC LETTER MALAYALAM NGA,yJA,yNYA,yTTA,yNNA,zbNA,yBHA,yRA,yLLA,zbLA,ySSA",
    "=870aARABIC LETTER ALEF WITH ATTACHED FATHA,ziTOP RIGHT FATHA,yRIGHT MIDDLE STROKE",
    "yLEFT MIDDLE STROKE,yATTACHED KASRA,ziBOTTOM RIGHT KASRA,ziROUND DOT ABOVE,zjIGHT ROUND DOT",
    "ziLEFT ROUND DOT,ziROUND DOT BELOW,yDOT ABOVE,yATTACHED TOP RIGHT FATHA AND DOT ABOVE",
    "yRIGHT MIDDLE STROKE AND DOT ABOVE,yATTACHED BOTTOM RIGHT KASRA AND DOT ABOVE",
    "ziTOP RIGHT FATHA AND LEFT RING,yRIGHT MIDDLE STROKE AND LEFT RING",
    "yATTACHED BOTTOM RIGHT KASRA AND LEFT RING,ziRIGHT HAMZA,ziLEFT HAMZA",
    "hTATWEEL WITH OVERSTRUCK HAMZA,zgWAW,uTWO DOTS BELOW,hLETTER THIN YEH,hBASELINE ROUND DOT",
    "hRAISED ROUND DOT,hLETTER NOON WITH INVERTED SMALL V,oHAH WITH INVERTED SMALL V BELOW",
    "oTAH WITH DOT BELOW,xTHREE DOTS BELOW,oKEHEH WITH TWO DOTS VERTICALLY BELOW,hVERTICAL TAIL",
    "=890hPOUND MARK ABOVE,iIASTRE MARK ABOVE,=898hSMALL HIGH WORD AL-JUZ,nLOW WORD ISHMAAM,xMAALA",
    "wTASHEEL,hMADDA WAAJIB,hSUPERSCRIPT ALEF MOKHASSAS,hDOUBLED MADDA,hHALF MADDA OVER MADDA",
    "hLETTER BEH WITH SMALL V BELOW,xHAMZA ABOVE,oJEEM WITH TWO DOTS ABOVE,oTAH WITH TWO DOTS ABOVE",
    "oFEH WITH DOT BELOW AND THREE DOTS ABOVE,oQAF WITH DOT BELOW,oLAM WITH DOUBLE BAR",
    "oMEEM WITH THREE DOTS ABOVE,oYEH WITH TWO DOTS BELOW AND HAMZA ABOVE,zrDOT ABOVE",
    "oREH WITH LOOP,oWAW WITH DOT WITHIN,oROHINGYA YEH,oLOW ALEF,oDAL WITH THREE DOTS BELOW",
    "oSAD WITH THREE DOTS BELOW,oGAF WITH INVERTED STROKE,oSTRAIGHT WAW,oZAIN WITH INVERTED V ABOVE",
    "oAIN WITH THREE DOTS BELOW,oKAF WITH DOT BELOW,oQAF WITH DOT BELOW AND NO DOTS ABOVE",
    "oBEH WITH SMALL MEEM ABOVE,oPEH WITH SMALL MEEM ABOVE,oTEH WITH SMALL TEH ABOVE",
    "oREH WITH SMALL NOON ABOVE,oYEH WITH TWO DOTS BELOW AND SMALL NOON ABOVE,oAFRICAN FEH,wQAF",
    "wNOON,oPEH WITH SMALL V,oTEH WITH SMALL V,pTEH WITH SMALL V,pCHEH WITH SMALL V",
    "oKEHEH WITH SMALL V,oGHAIN WITH THREE DOTS ABOVE,oAFRICAN QAF WITH THREE DOTS ABOVE",
    "oJEEM WITH THREE DOTS ABOVE,zkBELOW,oLAM WITH SMALL ARABIC LETTER TAH ABOVE,oGRAF",
    "hSMALL FARSI YEH,nHIGH FARSI YEH,sYEH BARREE WITH TWO DOTS BELOW,sWORD SAH,sZAH",
    "hLARGE ROUND DOT ABOVE,xBELOW,hSUKUN BELOW,hLARGE CIRCLE BELOW,nROUND DOT INSIDE CIRCLE BELOW",
    "hSMALL LOW WAW,nHIGH WORD AR-RUB,sSAD,sAIN,sQAF,sNOON WITH KASRA,nLOW NOON WITH KASRA",
    "nHIGH WORD ATH-THALATHA,yS-SAJDA,yN-NISF,xSAKTA,xQIF,xWAQFA,sFOOTNOTE MARKER,sSIGN SAFHA",
    "hDISPUTED END OF AYAH,hTURNED DAMMA BELOW,hCURLY FATHA,nDAMMA,nKASRA,nFATHATAN,nDAMMATAN",
    "nKASRATAN,hTONE ONE DOT ABOVE,mTWO DOTS ABOVE,mLOOP ABOVE,mONE DOT BELOW,mTWO DOTS BELOW",
    "mLOOP BELOW,hOPEN FATHATAN,mDAMMATAN,mKASRATAN,hSMALL HIGH WAW,hFATHA WITH RING,sDOT ABOVE",
    "hKASRA WITH DOT BELOW,hLEFT ARROWHEAD ABOVE,hRIGHT ARROWHEAD ABOVE,hLEFT ARROWHEAD BELOW",
    "hRIGHT ARROWHEAD BELOW,hDOUBLE RIGHT ARROWHEAD ABOVE,zk WITH DOT",
    "hRIGHT ARROWHEAD ABOVE WITH DOT,hDAMMA WITH DOT,hMARK SIDEWAYS NOON GHUNNA",
    "aDEVANAGARI SIGN INVERTED CANDRABINDU,qCANDRABINDU,qANUSVARA,qVISARGA,lLETTER SHORT A,sA,tA,sI",
    "tI,sU,tU,sVOCALIC R,zbL,sCANDRA E,sSHORT E,sE,sAI,sCANDRA O,sSHORT O,sO,sAU,sKA,tHA,sGA,tHA",
    "sNGA,sCA,tHA,sJA,tHA,sNYA,sTTA,uHA,sDDA,uHA,sNNA,sTA,tHA,sDA,tHA,sNA,tNNA,sPA,tHA,sBA,tHA,sMA",
    "sYA,sRA,tRA,sLA,tLA,uLA,sVA,sSHA,tSA,tA,sHA,lVOWEL SIGN OE,xOE,lSIGN NUKTA,qAVAGRAHA",
    "lVOWEL SIGN AA,wI,xI,wU,xU,wVOCALIC R,zgR,wCANDRA E,wSHORT E,wE,wAI,wCANDRA O,wSHORT O,wO,wAU",
    "lSIGN VIRAMA,lVOWEL SIGN PRISHTHAMATRA E,wAW,lOM,lSTRESS SIGN UDATTA,xANUDATTA,lGRAVE ACCENT",
    "lACUTE ACCENT,lVOWEL SIGN CANDRA LONG E,wUE,xUE,lLETTER QA,sKHHA,sGHHA,sZA,sDDDHA,sRHA,sFA",
    "sYYA,sVOCALIC RR,zbLL,lVOWEL SIGN VOCALIC L,zgL,lDANDA,mOUBLE DANDA,mIGIT ZERO,rONE,rTWO,sHREE",
    "rFOUR,sIVE,rSIX,sEVEN,rEIGHT,rNINE,lABBREVIATION SIGN,lSIGN HIGH SPACING DOT,lLETTER CANDRA A",
    "sOE,tOE,sAW,sUE,tUE,sMARWARI DDA,sZHA,sHEAVY YA,sGGA,sJJA,sGLOTTAL STOP,sDDDA,sBBA",
    "aBENGALI ANJI,iSIGN CANDRABINDU,nANUSVARA,nVISARGA,=985iLETTER A,qA,pI,qI,pU,qU,pVOCALIC R,xL",
    "=98FpE,pAI,=993pO,pAU,pKA,qHA,pGA,qHA,pNGA,pCA,qHA,pJA,qHA,pNYA,pTTA,rHA,pDDA,rHA,pNNA,pTA,qHA",
    "pDA,qHA,pNA,=9AApPA,qHA,pBA,qHA,pMA,pYA,pRA,=9B2pLA,=9B6pSHA,qSA,qA,pHA,=9BCiSIGN NUKTA",
    "nAVAGRAHA,iVOWEL SIGN AA,tI,uI,tU,uU,tVOCALIC R,zdR,=9C7tE,tAI,=9CBtO,tAU,iSIGN VIRAMA",
    "iLETTER KHANDA TA,=9D7iAU LENGTH MARK,=9DCiLETTER RRA,qHA,=9DFpYYA,pVOCALIC RR,xLL",
    "iVOWEL SIGN VOCALIC L,zdL,=9E6iDIGIT ZERO,oONE,oTWO,pHREE,oFOUR,pIVE,oSIX,pEVEN,oEIGHT,oNINE",
    "iLETTER RA WITH MIDDLE DIAGONAL,xLOWER DIAGONAL,iRUPEE MARK,oSIGN,iCURRENCY NUMERATOR ONE",
    "zcTWO,zdHREE,zcFOUR,zcONE LESS THAN THE DENOMINATOR,rDENOMINATOR SIXTEEN,iISSHAR,iGANDA MARK",
    "iLETTER VEDIC ANUSVARA,iABBREVIATION SIGN,iSANDHI MARK,=A01aGURMUKHI SIGN ADAK BINDI,oBINDI",
    "oVISARGA,=A05jLETTER A,rA,qI,rI,qU,rU,=A0FqEE,qAI,=A13qOO,qAU,qKA,rHA,qGA,rHA,qNGA,qCA,rHA,qJA",
    "rHA,qNYA,qTTA,sHA,qDDA,sHA,qNNA,qTA,rHA,qDA,rHA,qNA,=A2AqPA,rHA,qBA,rHA,qMA,qYA,qRA,=A32qLA",
    "rLA,=A35qVA,qSHA,=A38rA,qHA,=A3CjSIGN NUKTA,=A3EjVOWEL SIGN AA,uI,vI,uU,vU,=A47uEE,uAI,=A4BuOO",
    "uAU,jSIGN VIRAMA,=A51oUDAAT,=A59jLETTER KHHA,qGHHA,qZA,qRRA,=A5EqFA,=A66jDIGIT ZERO,pONE,pTWO",
    "qHREE,pFOUR,qIVE,pSIX,qEVEN,pEIGHT,pNINE,jTIPPI,jADDAK,jIRI,jURA,jEK ONKAR,jSIGN YAKASH",
    "jABBREVIATION SIGN,=A81cJARATI SIGN CANDRABINDU,oANUSVARA,oVISARGA,=A85jLETTER A,rA,qI,rI,qU",
    "rU,qVOCALIC R,yL,jVOWEL CANDRA E,=A8FjLETTER E,qAI,jVOWEL CANDRA O,=A93jLETTER O,qAU,qKA,rHA",
    "qGA,rHA,qNGA,qCA,rHA,qJA,rHA,qNYA,qTTA,sHA,qDDA,sHA,qNNA,qTA,rHA,qDA,rHA,qNA,=AAAqPA,rHA,qBA",
    "rHA,qMA,qYA,qRA,=AB2qLA,rLA,=AB5qVA,qSHA,rSA,rA,qHA,=ABCjSIGN NUKTA,oAVAGRAHA,jVOWEL SIGN AA",
    "uI,vI,uU,vU,uVOCALIC R,zeR,uCANDRA E,=AC7uE,uAI,uCANDRA O,=ACBuO,uAU,jSIGN VIRAMA,=AD0jOM",
    "=AE0jLETTER VOCALIC RR,yLL,jVOWEL SIGN VOCALIC L,zeL,=AE6jDIGIT ZERO,pONE,pTWO,qHREE,pFOUR",
    "qIVE,pSIX,qEVEN,pEIGHT,pNINE,jABBREVIATION SIGN,jRUPEE SIGN,=AF9jLETTER ZHA,jSIGN SUKUN,pHADDA",
    "oMADDAH,oTHREE-DOT NUKTA ABOVE,oCIRCLE NUKTA ABOVE,oTWO-CIRCLE NUKTA ABOVE",
    "=B01aORIYA SIGN CANDRABINDU,lANUSVARA,lVISARGA,=B05gLETTER A,oA,nI,oI,nU,oU,nVOCALIC R,vL",
    "=B0FnE,nAI,=B13nO,nAU,nKA,oHA,nGA,oHA,nNGA,nCA,oHA,nJA,oHA,nNYA,nTTA,pHA,nDDA,pHA,nNNA,nTA,oHA",
    "nDA,oHA,nNA,=B2AnPA,oHA,nBA,oHA,nMA,nYA,nRA,=B32nLA,oLA,=B35nVA,nSHA,oSA,oA,nHA",
    "=B3CgSIGN NUKTA,lAVAGRAHA,gVOWEL SIGN AA,rI,sI,rU,sU,rVOCALIC R,zbR,=B47rE,rAI,=B4BrO,rAU",
    "gSIGN VIRAMA,=B55lOVERLINE,gAI LENGTH MARK,hU LENGTH MARK,=B5CgLETTER RRA,oHA,=B5FnYYA",
    "nVOCALIC RR,vLL,gVOWEL SIGN VOCALIC L,zbL,=B66gDIGIT ZERO,mONE,mTWO,nHREE,mFOUR,nIVE,mSIX",
    "nEVEN,mEIGHT,mNINE,gISSHAR,gLETTER WA,gFRACTION ONE QUARTER,tHALF,pTHREE QUARTERS",
    "pONE SIXTEENTH,tEIGHTH,pTHREE SIXTEENTHS,=B82aTAMIL SIGN ANUSVARA,lVISARGA,=B85gLETTER A,oA,nI",
    "oI,nU,oU,=B8EnE,oE,nAI,=B92nO,oO,nAU,nKA,=B99nNGA,nCA,=B9CnJA,=B9EnNYA,nTTA,=BA3nNNA,nTA",
    "=BA8nNA,oNNA,nPA,=BAEnMA,nYA,nRA,oRA,nLA,oLA,pLA,nVA,nSHA,oSA,oA,nHA,=BBEgVOWEL SIGN AA,rI,sI",
    "rU,sU,=BC6rE,sE,rAI,=BCArO,sO,rAU,gSIGN VIRAMA,=BD0gOM,=BD7gAU LENGTH MARK,=BE6gDIGIT ZERO",
    "mONE,mTWO,nHREE,mFOUR,nIVE,mSIX,nEVEN,mEIGHT,mNINE,gNUMBER TEN,nONE HUNDRED,rTHOUSAND",
    "gDAY SIGN,gMONTH SIGN,gYEAR SIGN,gDEBIT SIGN,gCREDIT SIGN,gAS ABOVE SIGN,gRUPEE SIGN",
    "gNUMBER SIGN,=C00bELUGU SIGN COMBINING CANDRABINDU ABOVE,nANDRABINDU,mANUSVARA,mVISARGA",
    "mCOMBINING ANUSVARA ABOVE,hLETTER A,pA,oI,pI,oU,pU,oVOCALIC R,wL,=C0EoE,pE,oAI,=C12oO,pO,oAU",
    "oKA,pHA,oGA,pHA,oNGA,oCA,pHA,oJA,pHA,oNYA,oTTA,qHA,oDDA,qHA,oNNA,oTA,pHA,oDA,pHA,oNA,=C2AoPA",
    "pHA,oBA,pHA,oMA,oYA,oRA,pRA,oLA,pLA,qLA,oVA,oSHA,pSA,pA,oHA,=C3ChSIGN NUKTA,mAVAGRAHA",
    "hVOWEL SIGN AA,sI,tI,sU,tU,sVOCALIC R,zcR,=C46sE,tE,sAI,=C4AsO,tO,sAU,hSIGN VIRAMA",
    "=C55hLENGTH MARK,hAI LENGTH MARK,=C58hLETTER TSA,oDZA,oRRRA,=C5DoNAKAARA POLLU,=C60oVOCALIC RR",
    "wLL,hVOWEL SIGN VOCALIC L,zcL,=C66hDIGIT ZERO,nONE,nTWO,oHREE,nFOUR,oIVE,nSIX,oEVEN,nEIGHT",
    "nNINE,=C77hSIGN SIDDHAM,hFRACTION DIGIT ZERO FOR ODD POWERS OF FOUR",
    "wONE FOR ODD POWERS OF FOUR,wTWO FOR ODD POWERS OF FOUR,xHREE FOR ODD POWERS OF FOUR",
    "wONE FOR EVEN POWERS OF FOUR,wTWO FOR EVEN POWERS OF FOUR,xHREE FOR EVEN POWERS OF FOUR",
    "hSIGN TUUMU,aKANNADA SIGN SPACING CANDRABINDU,nCANDRABINDU,nANUSVARA,nVISARGA,nSIDDHAM",
    "iLETTER A,qA,pI,qI,pU,qU,pVOCALIC R,xL,=C8EpE,qE,pAI,=C92pO,qO,pAU,pKA,qHA,pGA,qHA,pNGA,pCA",
    "qHA,pJA,qHA,pNYA,pTTA,rHA,pDDA,rHA,pNNA,pTA,qHA,pDA,qHA,pNA,=CAApPA,qHA,pBA,qHA,pMA,pYA,pRA",
    "qRA,pLA,qLA,=CB5pVA,pSHA,qSA,qA,pHA,=CBCiSIGN NUKTA,nAVAGRAHA,iVOWEL SIGN AA,tI,uI,tU,uU",
    "tVOCALIC R,zdR,=CC6tE,uE,tAI,=CCAtO,uO,tAU,iSIGN VIRAMA,=CD5iLENGTH MARK,iAI LENGTH MARK",
    "=CDDiLETTER NAKAARA POLLU,pFA,=CE0pVOCALIC RR,xLL,iVOWEL SIGN VOCALIC L,zdL,=CE6iDIGIT ZERO",
    "oONE,oTWO,pHREE,oFOUR,pIVE,oSIX,pEVEN,oEIGHT,oNINE,=CF1iSIGN JIHVAMULIYA,nUPADHMANIYA",
    "=D00aMALAYALAM SIGN COMBINING ANUSVARA ABOVE,qANDRABINDU,pANUSVARA,pVISARGA",
    "kLETTER VEDIC ANUSVARA,rA,sA,rI,sI,rU,sU,rVOCALIC R,zL,=D0ErE,sE,rAI,=D12rO,sO,rAU,rKA,sHA,rGA",
    "sHA,rNGA,rCA,sHA,rJA,sHA,rNYA,rTTA,tHA,rDDA,tHA,rNNA,rTA,sHA,rDA,sHA,rNA,sNNA,rPA,sHA,rBA,sHA",
    "rMA,rYA,rRA,sRA,rLA,sLA,tLA,rVA,rSHA,sSA,sA,rHA,rTTTA,kSIGN VERTICAL BAR VIRAMA",
    "pCIRCULAR VIRAMA,pAVAGRAHA,kVOWEL SIGN AA,vI,wI,vU,wU,vVOCALIC R,zfR,=D46vE,wE,vAI,=D4AvO,wO",
    "vAU,kSIGN VIRAMA,kLETTER DOT REPH,kSIGN PARA,=D54kLETTER CHILLU M,yY,yLLL,kAU LENGTH MARK",
    "kFRACTION ONE ONE-HUNDRED-AND-SIXTIETH,xFORTIETH,tTHREE EIGHTIETHS,tONE TWENTIETH,yENTH",
    "tTHREE TWENTIETHS,tONE FIFTH,kLETTER ARCHAIC II,rVOCALIC RR,zLL,kVOWEL SIGN VOCALIC L,zfL",
    "=D66kDIGIT ZERO,qONE,qTWO,rHREE,qFOUR,rIVE,qSIX,rEVEN,qEIGHT,qNINE,kNUMBER TEN,rONE HUNDRED",
    "vTHOUSAND,kFRACTION ONE QUARTER,xHALF,tTHREE QUARTERS,tONE SIXTEENTH,xEIGHTH,tTHREE SIXTEENTHS",
    "kDATE MARK,kLETTER CHILLU NN,yN,yRR,yL,zL,yK,=D81aSINHALA SIGN CANDRABINDU,nANUSVARAYA",
    "nVISARGAYA,=D85iLETTER AYANNA,qAYANNA,qEYANNA,rEYANNA,pIYANNA,qIYANNA,pUYANNA,qUYANNA",
    "pIRUYANNA,sUYANNA,qLUYANNA,sUYANNA,pEYANNA,qEYANNA,pAIYANNA,pOYANNA,qOYANNA,pAUYANNA",
    "=D9AqLPAPRAANA KAYANNA,pMAHAAPRAANA KAYANNA,pALPAPRAANA GAYANNA,pMAHAAPRAANA GAYANNA",
    "pKANTAJA NAASIKYAYA,pSANYAKA GAYANNA,pALPAPRAANA CAYANNA,pMAHAAPRAANA CAYANNA",
    "pALPAPRAANA JAYANNA,pMAHAAPRAANA JAYANNA,pTAALUJA NAASIKYAYA,xSANYOOGA NAAKSIKYAYA",
    "pSANYAKA JAYANNA,pALPAPRAANA TTAYANNA,pMAHAAPRAANA TTAYANNA,pALPAPRAANA DDAYANNA",
    "pMAHAAPRAANA DDAYANNA,qUURDHAJA NAYANNA,pSANYAKA DDAYANNA,pALPAPRAANA TAYANNA",
    "pMAHAAPRAANA TAYANNA,pALPAPRAANA DAYANNA,pMAHAAPRAANA DAYANNA,pDANTAJA NAYANNA",
    "=DB3pSANYAKA DAYANNA,pALPAPRAANA PAYANNA,pMAHAAPRAANA PAYANNA,pALPAPRAANA BAYANNA",
    "pMAHAAPRAANA BAYANNA,rYANNA,pAMBA BAYANNA,pYAYANNA,pRAYANNA,=DBDpDANTAJA LAYANNA,=DC0pVAYANNA",
    "pTAALUJA SAYANNA,pMUURDHAJA SAYANNA,pDANTAJA SAYANNA,pHAYANNA,pMUURDHAJA LAYANNA,pFAYANNA",
    "=DCAiSIGN AL-LAKUNA,=DCFiVOWEL SIGN AELA-PILLA,tKETTI AEDA-PILLA,tDIGA AEDA-PILLA",
    "tKETTI IS-PILLA,tDIGA IS-PILLA,tKETTI PAA-PILLA,=DD6tDIGA PAA-PILLA,=DD8tGAETTA-PILLA,tKOMBUVA",
    "tDIGA KOMBUVA,tKOMBU DEKA,yVA HAA AELA-PILLA,zgDIGA AELA-PILLA,zgGAYANUKITTA,tGAYANUKITTA",
    "=DE6iLITH DIGIT ZERO,tONE,tTWO,uHREE,tFOUR,uIVE,tSIX,uEVEN,tEIGHT,tNINE",
    "=DF2iVOWEL SIGN DIGA GAETTA-PILLA,zbYANUKITTA,iPUNCTUATION KUNDDALIYA",
    "=E01aTHAI CHARACTER KO KAI,qHO KHAI,vUAT,vWAI,vON,tRAKHANG,pNGO NGU,pCHO CHAN,vING,vANG,pSO SO",
    "pCHO CHOE,pYO YING,pDO CHADA,pTO PATAK,qHO THAN,tNANGMONTHO,tPHUTHAO,pNO NEN,pDO DEK,pTO TAO",
    "qHO THUNG,vAHAN,vONG,pNO NU,pBO BAIMAI,pPO PLA,qHO PHUNG,pFO FA,pPHO PHAN,pFO FAN,pPHO SAMPHAO",
    "pMO MA,pYO YAK,pRO RUA,qU,pLO LING,qU,pWO WAEN,pSO SALA,sRUSI,sSUA,pHO HIP,pLO CHULA,pO ANG",
    "pHO NOKHUK,pPAIYANNOI,pSARA A,pMAI HAN-AKAT,pSARA AA,vM,uI,vI,uUE,wE,uU,vU,pPHINTHU",
    "=E3FgURRENCY SYMBOL BAHT,gHARACTER SARA E,uAE,uO,uAI MAIMUAN,zcALAI,pLAKKHANGYAO,pMAIYAMOK",
    "sTAIKHU,s EK,tTHO,uRI,tCHATTAWA,pTHANTHAKHAT,pNIKHAHIT,pYAMAKKAN,pFONGMAN,fDIGIT ZERO,lONE",
    "lTWO,mHREE,lFOUR,mIVE,lSIX,mEVEN,lEIGHT,lNINE,fCHARACTER ANGKHANKHU,pKHOMUT,=E81aLAO LETTER KO",
    "mHO SUNG,=E84pTAM,=E86lPALI GHA,lNGO,lCO,lPALI CHA,lSO TAM,=E8ClPALI JHA,lNYO,lPALI NYA,qTTA",
    "sHA,qDDA,sHA,qNNA,lDO,lTO,mHO SUNG,pTAM,lPALI DHA,lNO,lBO,lPO,mHO SUNG,lFO TAM,lPHO TAM",
    "lFO SUNG,lPALI BHA,lMO,lYO,lLO LING,=EA5pOOT,=EA7lWO,lSANSKRIT SHA,vSA,mO SUNG,lHO SUNG",
    "lPALI LLA,lO,lHO TAM,eELLIPSIS,eVOWEL SIGN A,pMAI KAN,pAA,qM,pI,qI,pY,qY,pU,qU",
    "eSIGN PALI VIRAMA,eVOWEL SIGN MAI KON,eSEMIVOWEL SIGN LO,tNYO,=EC0eVOWEL SIGN E,qI,pO,pAY,qI",
    "=EC6eKO LA,=EC8eTONE MAI EK,nTHO,oI,nCATAWA,eCANCELLATION MARK,eNIGGAHITA,=ED0eDIGIT ZERO,kONE",
    "kTWO,lHREE,kFOUR,lIVE,kSIX,lEVEN,kEIGHT,kNINE,=EDCeHO NO,hMO,eLETTER KHMU GO,qNYO",
    "=F00aTIBETAN SYLLABLE OM,iMARK GTER YIG MGO TRUNCATED A,zb-UM RNAM BCAD MA,zfGTER TSHEG MA",
    "nINITIAL YIG MGO MDUN MA,nCLOSING YIG MGO SGAB MA,oARET YIG MGO PHUR SHAD MA",
    "nYIG MGO TSHEG SHAD MA,nSBRUL SHAD,nBSKUR YIG MGO,oKA- SHOG YIG MGO,nINTERSYLLABIC TSHEG",
    "nDELIMITER TSHEG BSTAR,nSHAD,nNYIS SHAD,nTSHEG SHAD,nNYIS TSHEG SHAD,nRIN CHEN SPUNGS SHAD",
    "oGYA GRAM SHAD,nCARET -DZUD RTAGS ME LONG CAN,nGTER TSHEG,iLOGOTYPE SIGN CHAD RTAGS",
    "wLHAG RTAGS,iASTROLOGICAL SIGN SGRA GCAN -CHAR RTAGS,zb-KHYUD PA,zbSDONG TSHUGS",
    "iSIGN RDEL DKAR GCIG,yNYIS,ySUM,sNAG GCIG,xNYIS,sDKAR RDEL NAG,iDIGIT ZERO,oONE,oTWO,pHREE",
    "oFOUR,pIVE,oSIX,pEVEN,oEIGHT,oNINE,oHALF ONE,tTWO,uHREE,tFOUR,uIVE,tSIX,uEVEN,tEIGHT,tNINE",
    "tZERO,iMARK BSDUS RTAGS,nNGAS BZUNG NYI ZLA,nCARET -DZUD RTAGS BZHI MIG CAN",
    "nNGAS BZUNG SGOR RTAGS,nCHE MGO,nTSA -PHRU,nGUG RTAGS GYON,zAS,nANG KHANG GYON,zAS",
    "iSIGN YAR TSHES,nMAR TSHES,iLETTER KA,qHA,pGA,qHA,pNGA,pCA,qHA,pJA,=F49pNYA,pTTA,rHA,pDDA,rHA",
    "pNNA,pTA,qHA,pDA,qHA,pNA,pPA,qHA,pBA,qHA,pMA,pTSA,rHA,pDZA,rHA,pWA,pZHA,qA,p-A,pYA,pRA,pLA",
    "pSHA,qSA,qA,pHA,pA,pKSSA,pFIXED-FORM RA,pKKA,pRRA,=F71iVOWEL SIGN AA,tI,uI,tU,uU,tVOCALIC R",
    "zdR,zcL,zdL,tE,uE,tO,uO,iSIGN RJES SU NGA RO,oNAM BCAD,iVOWEL SIGN REVERSED I,zeI",
    "iSIGN NYI ZLA NAA DA,nSNA LDAN,iMARK HALANTA,nPALUTA,iSIGN LCI RTAGS,nYANG RTAGS,nLCE TSA CAN",
    "nMCHU CAN,nGRU CAN RGYINGS,rMED RGYINGS,nINVERTED MCHU CAN,jUBJOINED SIGN LCE TSA CAN",
    "xMCHU CAN,xINVERTED MCHU CAN,sLETTER KA,zbHA,zGA,zbHA,zNGA,zCA,zbHA,zJA,=F99zNYA,zTTA,zcHA",
    "zDDA,zcHA,zNNA,zTA,zbHA,zDA,zbHA,zNA,zPA,zbHA,zBA,zbHA,zMA,zTSA,zcHA,zDZA,zcHA,zWA,zZHA,zbA",
    "z-A,zYA,zRA,zLA,zSHA,zbSA,zbA,zHA,zA,zKSSA,zFIXED-FORM WA,zlYA,zlRA,=FBEiKU RU KHA",
    "r BZHI MIG CAN,iCANTILLATION SIGN HEAVY BEAT,zbLIGHT BEAT,zbCANG TE-U,zbSBUB -CHAL",
    "iSYMBOL DRIL BU,pRDO RJE,pPADMA GDAN,pRDO RJE RGYA GRAM,pPHUR PA,pNOR BU,v NYIS -KHYIL",
    "wGSUM -KHYIL,wBZHI -KHYIL,=FCEjIGN RDEL NAG RDEL DKAR,wGSUM,iMARK BSKA- SHOG GI MGO RGYAN",
    "nMNYAM YIG GI MGO RGYAN,nNYIS TSHEG,nINITIAL BRDA RNYING YIG MGO MDUN MA",
    "nCLOSING BRDA RNYING YIG MGO SGAB MA,aRIGHT-FACING SVASTI SIGN,aLEFT-FACING SVASTI SIGN",
    "aRIGHT-FACING SVASTI SIGN WITH DOTS,aLEFT-FACING SVASTI SIGN WITH DOTS",
    "aTIBETAN MARK LEADING MCHAN RTAGS,nTRAILING MCHAN RTAGS"]

end Reconcile.Text.CharName
