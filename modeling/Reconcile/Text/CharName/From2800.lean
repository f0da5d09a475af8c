/-!
# Names of characters from U+2800 to U+2FFF

The lines are read by `Reconcile.Text.CharName`.
-/

namespace Reconcile.Text.CharName

/-- The names of the characters from U+2800 to U+2FFF. -/
def namesFrom2800 : List String :=
  [
    "=2800aBRAILLE PATTERN BLANK,qDOTS-1,v2,v12,v3,v13,v23,v123,v4,v14,v24,v124,v34,v134,v234,v1234",
    "v5,v15,v25,v125,v35,v135,v235,v1235,v45,v145,v245,v1245,v345,v1345,v2345,v12345,v6,v16,v26",
    "v126,v36,v136,v236,v1236,v46,v146,v246,v1246,v346,v1346,v2346,v12346,v56,v156,v256,v1256,v356",
    "v1356,v2356,v12356,v456,v1456,v2456,v12456,v3456,v13456,v23456,v123456,v7,v17,v27,v127,v37",
    "v137,v237,v1237,v47,v147,v247,v1247,v347,v1347,v2347,v12347,v57,v157,v257,v1257,v357,v1357",
    "v2357,v12357,v457,v1457,v2457,v12457,v3457,v13457,v23457,v123457,v67,v167,v267,v1267,v367",
    "v1367,v2367,v12367,v467,v1467,v2467,v12467,v3467,v13467,v23467,v123467,v567,v1567,v2567,v12567",
    "v3567,v13567,v23567,v123567,v4567,v14567,v24567,v124567,v34567,v134567,v234567,v1234567,v8,v18",
    "v28,v128,v38,v138,v238,v1238,v48,v148,v248,v1248,v348,v1348,v2348,v12348,v58,v158,v258,v1258",
    "v358,v1358,v2358,v12358,v458,v1458,v2458,v12458,v3458,v13458,v23458,v123458,v68,v168,v268",
    "v1268,v368,v1368,v2368,v12368,v468,v1468,v2468,v12468,v3468,v13468,v23468,v123468,v568,v1568",
    "v2568,v12568,v3568,v13568,v23568,v123568,v4568,v14568,v24568,v124568,v34568,v134568,v234568",
    "v1234568,v78,v178,v278,v1278,v378,v1378,v2378,v12378,v478,v1478,v2478,v12478,v3478,v13478",
    "v23478,v123478,v578,v1578,v2578,v12578,v3578,v13578,v23578,v123578,v4578,v14578,v24578,v124578",
    "v34578,v134578,v234578,v1234578,v678,v1678,v2678,v12678,v3678,v13678,v23678,v123678,v4678",
    "v14678,v24678,v124678,v34678,v134678,v234678,v1234678,v5678,v15678,v25678,v125678,v35678",
    "v135678,v235678,v1235678,v45678,v145678,v245678,v1245678,v345678,v1345678,v2345678,v12345678",
    "aRIGHTWARDS TWO-HEADED ARROW WITH VERTICAL STROKE,ziDOUBLE VERTICAL STROKE",
    "aLEFTWARDS DOUBLE ARROW WITH VERTICAL STROKE,aRIGHTWARDS DOUBLE ARROW WITH VERTICAL STROKE",
    "aLEFT RIGHT DOUBLE ARROW WITH VERTICAL STROKE,aRIGHTWARDS TWO-HEADED ARROW FROM BAR",
    "aLEFTWARDS DOUBLE ARROW FROM BAR,aRIGHTWARDS DOUBLE ARROW FROM BAR",
    "aDOWNWARDS ARROW WITH HORIZONTAL STROKE,aUPWARDS ARROW WITH HORIZONTAL STROKE,iTRIPLE ARROW",
    "aDOWNWARDS TRIPLE ARROW,aLEFTWARDS DOUBLE DASH ARROW,aRIGHTWARDS DOUBLE DASH ARROW",
    "aLEFTWARDS TRIPLE DASH ARROW,aRIGHTWARDS TRIPLE DASH ARROW,mWO-HEADED TRIPLE DASH ARROW",
    "lARROW WITH DOTTED STEM,aUPWARDS ARROW TO BAR,aDOWNWARDS ARROW TO BAR",
    "aRIGHTWARDS ARROW WITH TAIL WITH VERTICAL STROKE,zhDOUBLE VERTICAL STROKE",
    "lTWO-HEADED ARROW WITH TAIL,zm WITH VERTICAL STROKE,zsDOUBLE VERTICAL STROKE",
    "aLEFTWARDS ARROW-TAIL,aRIGHTWARDS ARROW-TAIL,aLEFTWARDS DOUBLE ARROW-TAIL",
    "aRIGHTWARDS DOUBLE ARROW-TAIL,aLEFTWARDS ARROW TO BLACK DIAMOND",
    "aRIGHTWARDS ARROW TO BLACK DIAMOND,aLEFTWARDS ARROW FROM BAR TO BLACK DIAMOND",
    "aRIGHTWARDS ARROW FROM BAR TO BLACK DIAMOND,aNORTH WEST AND SOUTH EAST ARROW",
    "gEAST AND SOUTH WEST ARROW,gWEST ARROW WITH HOOK,gEAST ARROW WITH HOOK",
    "aSOUTH EAST ARROW WITH HOOK,gWEST ARROW WITH HOOK,aNORTH WEST ARROW AND NORTH EAST ARROW",
    "gEAST ARROW AND SOUTH EAST ARROW,aSOUTH EAST ARROW AND SOUTH WEST ARROW",
    "gWEST ARROW AND NORTH WEST ARROW,aRISING DIAGONAL CROSSING FALLING DIAGONAL",
    "aFALLING DIAGONAL CROSSING RISING DIAGONAL,aSOUTH EAST ARROW CROSSING NORTH EAST ARROW",
    "aNORTH EAST ARROW CROSSING SOUTH EAST ARROW,aFALLING DIAGONAL CROSSING NORTH EAST ARROW",
    "aRISING DIAGONAL CROSSING SOUTH EAST ARROW,aNORTH EAST ARROW CROSSING NORTH WEST ARROW",
    "gWEST ARROW CROSSING NORTH EAST ARROW,aWAVE ARROW POINTING DIRECTLY RIGHT",
    "aARROW POINTING RIGHTWARDS THEN CURVING UPWARDS,zoDOWNWARDS,pDOWNWARDS THEN CURVING LEFTWARDS",
    "znRIGHTWARDS,aRIGHT-SIDE ARC CLOCKWISE ARROW,aLEFT-SIDE ARC ANTICLOCKWISE ARROW",
    "aTOP ARC ANTICLOCKWISE ARROW,aBOTTOM ARC ANTICLOCKWISE ARROW",
    "aTOP ARC CLOCKWISE ARROW WITH MINUS,iANTICLOCKWISE ARROW WITH PLUS",
    "aLOWER RIGHT SEMICIRCULAR CLOCKWISE ARROW,gLEFT SEMICIRCULAR ANTICLOCKWISE ARROW",
    "aANTICLOCKWISE CLOSED CIRCLE ARROW,aCLOCKWISE CLOSED CIRCLE ARROW",
    "aRIGHTWARDS ARROW ABOVE SHORT LEFTWARDS ARROW,aLEFTWARDS ARROW ABOVE SHORT RIGHTWARDS ARROW",
    "aSHORT RIGHTWARDS ARROW ABOVE LEFTWARDS ARROW,aRIGHTWARDS ARROW WITH PLUS BELOW",
    "aLEFTWARDS ARROW WITH PLUS BELOW,aRIGHTWARDS ARROW THROUGH X",
    "aLEFT RIGHT ARROW THROUGH SMALL CIRCLE,aUPWARDS TWO-HEADED ARROW FROM SMALL CIRCLE",
    "aLEFT BARB UP RIGHT BARB DOWN HARPOON,kDOWN RIGHT BARB UP HARPOON",
    "aUP BARB RIGHT DOWN BARB LEFT HARPOON,iLEFT DOWN BARB RIGHT HARPOON",
    "aLEFT BARB UP RIGHT BARB UP HARPOON,aUP BARB RIGHT DOWN BARB RIGHT HARPOON",
    "aLEFT BARB DOWN RIGHT BARB DOWN HARPOON,aUP BARB LEFT DOWN BARB LEFT HARPOON",
    "aLEFTWARDS HARPOON WITH BARB UP TO BAR,aRIGHTWARDS HARPOON WITH BARB UP TO BAR",
    "aUPWARDS HARPOON WITH BARB RIGHT TO BAR,aDOWNWARDS HARPOON WITH BARB RIGHT TO BAR",
    "aLEFTWARDS HARPOON WITH BARB DOWN TO BAR,aRIGHTWARDS HARPOON WITH BARB DOWN TO BAR",
    "aUPWARDS HARPOON WITH BARB LEFT TO BAR,aDOWNWARDS HARPOON WITH BARB LEFT TO BAR",
    "aLEFTWARDS HARPOON WITH BARB UP FROM BAR,aRIGHTWARDS HARPOON WITH BARB UP FROM BAR",
    "aUPWARDS HARPOON WITH BARB RIGHT FROM BAR,aDOWNWARDS HARPOON WITH BARB RIGHT FROM BAR",
    "aLEFTWARDS HARPOON WITH BARB DOWN FROM BAR,aRIGHTWARDS HARPOON WITH BARB DOWN FROM BAR",
    "aUPWARDS HARPOON WITH BARB LEFT FROM BAR,aDOWNWARDS HARPOON WITH BARB LEFT FROM BAR",
    "aLEFTWARDS HARPOON WITH BARB UP ABOVE LEFTWARDS HARPOON WITH BARB DOWN",
    "aUPWARDS HARPOON WITH BARB LEFT BESIDE UPWARDS HARPOON WITH BARB RIGHT",
    "aRIGHTWARDS HARPOON WITH BARB UP ABOVE RIGHTWARDS HARPOON WITH BARB DOWN",
    "aDOWNWARDS HARPOON WITH BARB LEFT BESIDE DOWNWARDS HARPOON WITH BARB RIGHT",
    "aLEFTWARDS HARPOON WITH BARB UP ABOVE RIGHTWARDS HARPOON WITH BARB UP",
    "zdDOWN ABOVE RIGHTWARDS HARPOON WITH BARB DOWN",
    "aRIGHTWARDS HARPOON WITH BARB UP ABOVE LEFTWARDS HARPOON WITH BARB UP",
    "zeDOWN ABOVE LEFTWARDS HARPOON WITH BARB DOWN,aLEFTWARDS HARPOON WITH BARB UP ABOVE LONG DASH",
    "zdDOWN BELOW LONG DASH,aRIGHTWARDS HARPOON WITH BARB UP ABOVE LONG DASH,zeDOWN BELOW LONG DASH",
    "aUPWARDS HARPOON WITH BARB LEFT BESIDE DOWNWARDS HARPOON WITH BARB RIGHT",
    "aDOWNWARDS HARPOON WITH BARB LEFT BESIDE UPWARDS HARPOON WITH BARB RIGHT",
    "aRIGHT DOUBLE ARROW WITH ROUNDED HEAD,aEQUALS SIGN ABOVE RIGHTWARDS ARROW",
    "aTILDE OPERATOR ABOVE RIGHTWARDS ARROW,aLEFTWARDS ARROW ABOVE TILDE OPERATOR",
    "aRIGHTWARDS ARROW ABOVE TILDE OPERATOR,xALMOST EQUAL TO,aLESS-THAN ABOVE LEFTWARDS ARROW",
    "cFTWARDS ARROW THROUGH LESS-THAN,aGREATER-THAN ABOVE RIGHTWARDS ARROW",
    "aSUBSET ABOVE RIGHTWARDS ARROW,aLEFTWARDS ARROW THROUGH SUBSET,aSUPERSET ABOVE LEFTWARDS ARROW",
    "aLEFT FISH TAIL,aRIGHT FISH TAIL,aUP FISH TAIL,aDOWN FISH TAIL,aTRIPLE VERTICAL BAR DELIMITER",
    "aZ NOTATION SPOT,lTYPE COLON,aLEFT WHITE CURLY BRACKET,aRIGHT WHITE CURLY BRACKET",
    "aLEFT WHITE PARENTHESIS,aRIGHT WHITE PARENTHESIS,aZ NOTATION LEFT IMAGE BRACKET",
    "lRIGHT IMAGE BRACKET,lLEFT BINDING BRACKET,lRIGHT BINDING BRACKET",
    "aLEFT SQUARE BRACKET WITH UNDERBAR,aRIGHT SQUARE BRACKET WITH UNDERBAR",
    "aLEFT SQUARE BRACKET WITH TICK IN TOP CORNER,aRIGHT SQUARE BRACKET WITH TICK IN BOTTOM CORNER",
    "aLEFT SQUARE BRACKET WITH TICK IN BOTTOM CORNER,aRIGHT SQUARE BRACKET WITH TICK IN TOP CORNER",
    "aLEFT ANGLE BRACKET WITH DOT,aRIGHT ANGLE BRACKET WITH DOT,aLEFT ARC LESS-THAN BRACKET",
    "aRIGHT ARC GREATER-THAN BRACKET,aDOUBLE LEFT ARC GREATER-THAN BRACKET",
    "hRIGHT ARC LESS-THAN BRACKET,aLEFT BLACK TORTOISE SHELL BRACKET",
    "aRIGHT BLACK TORTOISE SHELL BRACKET,aDOTTED FENCE,aVERTICAL ZIGZAG LINE",
    "aMEASURED ANGLE OPENING LEFT,aRIGHT ANGLE VARIANT WITH SQUARE,aMEASURED RIGHT ANGLE WITH DOT",
    "aANGLE WITH S INSIDE,bCUTE ANGLE,aSPHERICAL ANGLE OPENING LEFT,yUP,aTURNED ANGLE",
    "aREVERSED ANGLE,aANGLE WITH UNDERBAR,aREVERSED ANGLE WITH UNDERBAR,aOBLIQUE ANGLE OPENING UP",
    "wDOWN,aMEASURED ANGLE WITH OPEN ARM ENDING IN ARROW POINTING UP AND RIGHT,zzlLEFT",
    "zzeDOWN AND RIGHT,zznLEFT,zzeRIGHT AND UP,zzeLEFT AND UP,zzeRIGHT AND DOWN,zzeLEFT AND DOWN",
    "aREVERSED EMPTY SET,aEMPTY SET WITH OVERBAR,pSMALL CIRCLE ABOVE,pRIGHT ARROW ABOVE",
    "pLEFT ARROW ABOVE,aCIRCLE WITH HORIZONTAL BAR,gD VERTICAL BAR,iPARALLEL,iREVERSE SOLIDUS",
    "iPERPENDICULAR,g DIVIDED BY HORIZONTAL BAR AND TOP HALF DIVIDED BY VERTICAL BAR",
    "hWITH SUPERIMPOSED X,gD ANTICLOCKWISE-ROTATED DIVISION SIGN,aUP ARROW THROUGH CIRCLE",
    "aCIRCLED WHITE BULLET,iBULLET,iLESS-THAN,iGREATER-THAN,g WITH SMALL CIRCLE TO THE RIGHT",
    "mTWO HORIZONTAL STROKES TO THE RIGHT,aSQUARED RISING DIAGONAL SLASH,iFALLING DIAGONAL SLASH",
    "iASTERISK,iSMALL CIRCLE,jQUARE,aTWO JOINED SQUARES,bRIANGLE WITH DOT ABOVE,oUNDERBAR",
    "aS IN TRIANGLE,aTRIANGLE WITH SERIFS AT BOTTOM,aRIGHT TRIANGLE ABOVE LEFT TRIANGLE",
    "aLEFT TRIANGLE BESIDE VERTICAL BAR,aVERTICAL BAR BESIDE RIGHT TRIANGLE",
    "aBOWTIE WITH LEFT HALF BLACK,mRIGHT HALF BLACK,bLACK BOWTIE,aTIMES WITH LEFT HALF BLACK",
    "lRIGHT HALF BLACK,aWHITE HOURGLASS,aBLACK HOURGLASS,aLEFT WIGGLY FENCE,aRIGHT WIGGLY FENCE",
    "aLEFT DOUBLE WIGGLY FENCE,aRIGHT DOUBLE WIGGLY FENCE,aINCOMPLETE INFINITY,aTIE OVER INFINITY",
    "aINFINITY NEGATED WITH VERTICAL BAR,aDOUBLE-ENDED MULTIMAP,aSQUARE WITH CONTOURED OUTLINE",
    "aINCREASES AS,aSHUFFLE PRODUCT,aEQUALS SIGN AND SLANTED PARALLEL,zh WITH TILDE ABOVE",
    "aIDENTICAL TO AND SLANTED PARALLEL,aGLEICH STARK,aTHERMODYNAMIC",
    "aDOWN-POINTING TRIANGLE WITH LEFT HALF BLACK,zdRIGHT HALF BLACK,aBLACK DIAMOND WITH DOWN ARROW",
    "gLOZENGE,aWHITE CIRCLE WITH DOWN ARROW,aBLACK CIRCLE WITH DOWN ARROW",
    "aERROR-BARRED WHITE SQUARE,nBLACK SQUARE,nWHITE DIAMOND,nBLACK DIAMOND,nWHITE CIRCLE",
    "nBLACK CIRCLE,aRULE-DELAYED,bEVERSE SOLIDUS OPERATOR,aSOLIDUS WITH OVERBAR",
    "aREVERSE SOLIDUS WITH HORIZONTAL STROKE,aBIG SOLIDUS,eREVERSE SOLIDUS,aDOUBLE PLUS",
    "aTRIPLE PLUS,aLEFT-POINTING CURVED ANGLE BRACKET,aRIGHT-POINTING CURVED ANGLE BRACKET,aTINY",
    "aMINY,aN-ARY CIRCLED DOT OPERATOR,oPLUS OPERATOR,oTIMES OPERATOR,gUNION OPERATOR WITH DOT",
    "zbPLUS,gSQUARE INTERSECTION OPERATOR,nUNION OPERATOR,aTWO LOGICAL AND OPERATOR,mOR OPERATOR",
    "aN-ARY TIMES OPERATOR,aMODULO TWO SUM,aSUMMATION WITH INTEGRAL,aQUADRUPLE INTEGRAL OPERATOR",
    "aFINITE PART INTEGRAL,aINTEGRAL WITH DOUBLE STROKE,jAVERAGE WITH SLASH,aCIRCULATION FUNCTION",
    "aANTICLOCKWISE INTEGRATION,aLINE INTEGRATION WITH RECTANGULAR PATH AROUND POLE",
    "wSEMICIRCULAR PATH AROUND POLE,rNOT INCLUDING THE POLE,aINTEGRAL AROUND A POINT OPERATOR",
    "aQUATERNION INTEGRAL OPERATOR,aINTEGRAL WITH LEFTWARDS ARROW WITH HOOK,oTIMES SIGN",
    "oINTERSECTION,oUNION,oOVERBAR,oUNDERBAR,aJOIN,aLARGE LEFT TRIANGLE OPERATOR",
    "aZ NOTATION SCHEMA COMPOSITION,sPIPING,tROJECTION,aPLUS SIGN WITH SMALL CIRCLE ABOVE",
    "pCIRCUMFLEX ACCENT ABOVE,pTILDE ABOVE,pDOT BELOW,pTILDE BELOW,pSUBSCRIPT TWO,pBLACK TRIANGLE",
    "aMINUS SIGN WITH COMMA ABOVE,qDOT BELOW,qFALLING DOTS,qRISING DOTS",
    "aPLUS SIGN IN LEFT HALF CIRCLE,nRIGHT HALF CIRCLE,aVECTOR OR CROSS PRODUCT",
    "aMULTIPLICATION SIGN WITH DOT ABOVE,zUNDERBAR,aSEMIDIRECT PRODUCT WITH BOTTOM CLOSED",
    "bMASH PRODUCT,aMULTIPLICATION SIGN IN LEFT HALF CIRCLE,xRIGHT HALF CIRCLE",
    "aCIRCLED MULTIPLICATION SIGN WITH CIRCUMFLEX ACCENT,aMULTIPLICATION SIGN IN DOUBLE CIRCLE",
    "aCIRCLED DIVISION SIGN,aPLUS SIGN IN TRIANGLE,aMINUS SIGN IN TRIANGLE",
    "bULTIPLICATION SIGN IN TRIANGLE,aINTERIOR PRODUCT,aRIGHTHAND INTERIOR PRODUCT",
    "aZ NOTATION RELATIONAL COMPOSITION,aAMALGAMATION OR COPRODUCT,aINTERSECTION WITH DOT",
    "aUNION WITH MINUS SIGN,lOVERBAR,aINTERSECTION WITH OVERBAR,sLOGICAL AND,aUNION WITH LOGICAL OR",
    "gABOVE INTERSECTION,aINTERSECTION ABOVE UNION,aUNION ABOVE BAR ABOVE INTERSECTION",
    "aINTERSECTION ABOVE BAR ABOVE UNION,aUNION BESIDE AND JOINED WITH UNION",
    "aINTERSECTION BESIDE AND JOINED WITH INTERSECTION,aCLOSED UNION WITH SERIFS",
    "hINTERSECTION WITH SERIFS,aDOUBLE SQUARE INTERSECTION,oUNION",
    "aCLOSED UNION WITH SERIFS AND SMASH PRODUCT,aLOGICAL AND WITH DOT ABOVE,iOR WITH DOT ABOVE",
    "aDOUBLE LOGICAL AND,pOR,aTWO INTERSECTING LOGICAL AND,zOR,aSLOPING LARGE OR,oAND",
    "aLOGICAL OR OVERLAPPING LOGICAL AND,iAND WITH MIDDLE STEM,iOR WITH MIDDLE STEM",
    "iAND WITH HORIZONTAL DASH,iOR WITH HORIZONTAL DASH,iAND WITH DOUBLE OVERBAR,rUNDERBAR",
    "rDOUBLE UNDERBAR,aSMALL VEE WITH UNDERBAR,aLOGICAL OR WITH DOUBLE OVERBAR,xUNDERBAR",
    "aZ NOTATION DOMAIN ANTIRESTRICTION,lRANGE ANTIRESTRICTION,aEQUALS SIGN WITH DOT BELOW",
    "aIDENTICAL WITH DOT ABOVE,aTRIPLE HORIZONTAL BAR WITH DOUBLE VERTICAL STROKE",
    "zcTRIPLE VERTICAL STROKE,bILDE OPERATOR WITH DOT ABOVE,uRISING DOTS,aSIMILAR MINUS SIMILAR",
    "aCONGRUENT WITH DOT ABOVE,aEQUALS WITH ASTERISK,aALMOST EQUAL TO WITH CIRCUMFLEX ACCENT",
    "bPPROXIMATELY EQUAL OR EQUAL TO,aEQUALS SIGN ABOVE PLUS SIGN,aPLUS SIGN ABOVE EQUALS SIGN",
    "aEQUALS SIGN ABOVE TILDE OPERATOR,aDOUBLE COLON EQUAL,aTWO CONSECUTIVE EQUALS SIGNS",
    "bHREE CONSECUTIVE EQUALS SIGNS,aEQUALS SIGN WITH TWO DOTS ABOVE AND TWO DOTS BELOW",
    "dIVALENT WITH FOUR DOTS ABOVE,aLESS-THAN WITH CIRCLE INSIDE,aGREATER-THAN WITH CIRCLE INSIDE",
    "aLESS-THAN WITH QUESTION MARK ABOVE,aGREATER-THAN WITH QUESTION MARK ABOVE",
    "aLESS-THAN OR SLANTED EQUAL TO,aGREATER-THAN OR SLANTED EQUAL TO",
    "aLESS-THAN OR SLANTED EQUAL TO WITH DOT INSIDE",
    "aGREATER-THAN OR SLANTED EQUAL TO WITH DOT INSIDE",
    "aLESS-THAN OR SLANTED EQUAL TO WITH DOT ABOVE,aGREATER-THAN OR SLANTED EQUAL TO WITH DOT ABOVE",
    "aLESS-THAN OR SLANTED EQUAL TO WITH DOT ABOVE RIGHT",
    "aGREATER-THAN OR SLANTED EQUAL TO WITH DOT ABOVE LEFT,aLESS-THAN OR APPROXIMATE",
    "aGREATER-THAN OR APPROXIMATE,aLESS-THAN AND SINGLE-LINE NOT EQUAL TO",
    "aGREATER-THAN AND SINGLE-LINE NOT EQUAL TO,aLESS-THAN AND NOT APPROXIMATE",
    "aGREATER-THAN AND NOT APPROXIMATE,aLESS-THAN ABOVE DOUBLE-LINE EQUAL ABOVE GREATER-THAN",
    "aGREATER-THAN ABOVE DOUBLE-LINE EQUAL ABOVE LESS-THAN,aLESS-THAN ABOVE SIMILAR OR EQUAL",
    "aGREATER-THAN ABOVE SIMILAR OR EQUAL,aLESS-THAN ABOVE SIMILAR ABOVE GREATER-THAN",
    "aGREATER-THAN ABOVE SIMILAR ABOVE LESS-THAN",
    "aLESS-THAN ABOVE GREATER-THAN ABOVE DOUBLE-LINE EQUAL",
    "aGREATER-THAN ABOVE LESS-THAN ABOVE DOUBLE-LINE EQUAL",
    "aLESS-THAN ABOVE SLANTED EQUAL ABOVE GREATER-THAN ABOVE SLANTED EQUAL",
    "aGREATER-THAN ABOVE SLANTED EQUAL ABOVE LESS-THAN ABOVE SLANTED EQUAL",
    "aSLANTED EQUAL TO OR LESS-THAN,uGREATER-THAN,uLESS-THAN WITH DOT INSIDE",
    "uGREATER-THAN WITH DOT INSIDE,aDOUBLE-LINE EQUAL TO OR LESS-THAN,yGREATER-THAN",
    "mSLANTED EQUAL TO OR LESS-THAN,zhGREATER-THAN,aSIMILAR OR LESS-THAN,lGREATER-THAN",
    "iABOVE LESS-THAN ABOVE EQUALS SIGN,oGREATER-THAN ABOVE EQUALS SIGN,aDOUBLE NESTED LESS-THAN",
    "oGREATER-THAN,oLESS-THAN WITH UNDERBAR,aGREATER-THAN OVERLAPPING LESS-THAN,nBESIDE LESS-THAN",
    "aLESS-THAN CLOSED BY CURVE,aGREATER-THAN CLOSED BY CURVE",
    "aLESS-THAN CLOSED BY CURVE ABOVE SLANTED EQUAL",
    "aGREATER-THAN CLOSED BY CURVE ABOVE SLANTED EQUAL,aSMALLER THAN,aLARGER THAN",
    "aSMALLER THAN OR EQUAL TO,aLARGER THAN OR EQUAL TO,aEQUALS SIGN WITH BUMPY ABOVE",
    "aPRECEDES ABOVE SINGLE-LINE EQUALS SIGN,aSUCCEEDS ABOVE SINGLE-LINE EQUALS SIGN",
    "aPRECEDES ABOVE SINGLE-LINE NOT EQUAL TO,aSUCCEEDS ABOVE SINGLE-LINE NOT EQUAL TO",
    "aPRECEDES ABOVE EQUALS SIGN,aSUCCEEDS ABOVE EQUALS SIGN,aPRECEDES ABOVE NOT EQUAL TO",
    "aSUCCEEDS ABOVE NOT EQUAL TO,aPRECEDES ABOVE ALMOST EQUAL TO,aSUCCEEDS ABOVE ALMOST EQUAL TO",
    "aPRECEDES ABOVE NOT ALMOST EQUAL TO,aSUCCEEDS ABOVE NOT ALMOST EQUAL TO,aDOUBLE PRECEDES",
    "hSUCCEEDS,aSUBSET WITH DOT,cPERSET WITH DOT,cBSET WITH PLUS SIGN BELOW",
    "cPERSET WITH PLUS SIGN BELOW,cBSET WITH MULTIPLICATION SIGN BELOW",
    "cPERSET WITH MULTIPLICATION SIGN BELOW,cBSET OF OR EQUAL TO WITH DOT ABOVE",
    "cPERSET OF OR EQUAL TO WITH DOT ABOVE,cBSET OF ABOVE EQUALS SIGN,cPERSET OF ABOVE EQUALS SIGN",
    "cBSET OF ABOVE TILDE OPERATOR,cPERSET OF ABOVE TILDE OPERATOR,cBSET OF ABOVE ALMOST EQUAL TO",
    "cPERSET OF ABOVE ALMOST EQUAL TO,cBSET OF ABOVE NOT EQUAL TO,cPERSET OF ABOVE NOT EQUAL TO",
    "bQUARE LEFT OPEN BOX OPERATOR,hRIGHT OPEN BOX OPERATOR,aCLOSED SUBSET,jPERSET",
    "jBSET OR EQUAL TO,jPERSET OR EQUAL TO,aSUBSET ABOVE SUPERSET,cPERSET ABOVE SUBSET",
    "cBSET ABOVE SUBSET,cPERSET ABOVE SUPERSET,jBESIDE SUBSET,qAND JOINED BY DASH WITH SUBSET",
    "aELEMENT OF OPENING DOWNWARDS,aPITCHFORK WITH TEE TOP,aTRANSVERSAL INTERSECTION,aFORKING",
    "aNONFORKING,aSHORT LEFT TACK,gDOWN TACK,gUP TACK,aPERPENDICULAR WITH S",
    "aVERTICAL BAR TRIPLE RIGHT TURNSTILE,aDOUBLE VERTICAL BAR LEFT TURNSTILE",
    "aVERTICAL BAR DOUBLE LEFT TURNSTILE,aDOUBLE VERTICAL BAR DOUBLE LEFT TURNSTILE",
    "aLONG DASH FROM LEFT MEMBER OF DOUBLE VERTICAL,aSHORT DOWN TACK WITH OVERBAR",
    "gUP TACK WITH UNDERBAR,oABOVE SHORT DOWN TACK,aDOUBLE DOWN TACK,hUP TACK,hSTROKE NOT SIGN",
    "aREVERSED DOUBLE STROKE NOT SIGN,aDOES NOT DIVIDE WITH REVERSED NEGATION SLASH",
    "aVERTICAL LINE WITH CIRCLE ABOVE,zbBELOW,aDOWN TACK WITH CIRCLE BELOW",
    "aPARALLEL WITH HORIZONTAL STROKE,oTILDE OPERATOR,aTRIPLE VERTICAL BAR BINARY RELATION",
    "uWITH HORIZONTAL STROKE,hCOLON OPERATOR,hNESTED LESS-THAN,oGREATER-THAN",
    "aDOUBLE-LINE SLANTED LESS-THAN OR EQUAL TO,uGREATER-THAN OR EQUAL TO",
    "aTRIPLE SOLIDUS BINARY RELATION,aLARGE TRIPLE VERTICAL BAR OPERATOR,aDOUBLE SOLIDUS OPERATOR",
    "aWHITE VERTICAL BAR,aN-ARY WHITE VERTICAL BAR,bORTH EAST WHITE ARROW,gWEST WHITE ARROW",
    "aSOUTH EAST WHITE ARROW,gWEST WHITE ARROW,aLEFT RIGHT WHITE ARROW,eWARDS BLACK ARROW",
    "aUPWARDS BLACK ARROW,aDOWNWARDS BLACK ARROW,aNORTH EAST BLACK ARROW,gWEST BLACK ARROW",
    "aSOUTH EAST BLACK ARROW,gWEST BLACK ARROW,aLEFT RIGHT BLACK ARROW,aUP DOWN BLACK ARROW",
    "aRIGHTWARDS ARROW WITH TIP DOWNWARDS,zbUPWARDS,aLEFTWARDS ARROW WITH TIP DOWNWARDS,zUPWARDS",
    "aSQUARE WITH TOP HALF BLACK,mBOTTOM HALF BLACK,mUPPER RIGHT DIAGONAL HALF BLACK",
    "mLOWER LEFT DIAGONAL HALF BLACK,aDIAMOND WITH LEFT HALF BLACK,nRIGHT HALF BLACK",
    "nTOP HALF BLACK,nBOTTOM HALF BLACK,bOTTED SQUARE,aBLACK LARGE SQUARE,aWHITE LARGE SQUARE",
    "aBLACK VERY SMALL SQUARE,aWHITE VERY SMALL SQUARE,aBLACK PENTAGON,aWHITE PENTAGON,gHEXAGON",
    "aBLACK HEXAGON,aHORIZONTAL BLACK HEXAGON,aBLACK LARGE CIRCLE,gMEDIUM DIAMOND",
    "aWHITE MEDIUM DIAMOND,aBLACK MEDIUM LOZENGE,aWHITE MEDIUM LOZENGE,aBLACK SMALL DIAMOND",
    "mLOZENGE,aWHITE SMALL LOZENGE,aBLACK HORIZONTAL ELLIPSE,aWHITE HORIZONTAL ELLIPSE",
    "aBLACK VERTICAL ELLIPSE,aWHITE VERTICAL ELLIPSE,aLEFT ARROW WITH SMALL CIRCLE",
    "aTHREE LEFTWARDS ARROWS,aLEFT ARROW WITH CIRCLED PLUS,bONG LEFTWARDS SQUIGGLE ARROW",
    "bEFTWARDS TWO-HEADED ARROW WITH VERTICAL STROKE,zhDOUBLE VERTICAL STROKE,zcFROM BAR",
    "vTRIPLE DASH ARROW,kARROW WITH DOTTED STEM,vTAIL WITH VERTICAL STROKE,zgDOUBLE VERTICAL STROKE",
    "kTWO-HEADED ARROW WITH TAIL,zl WITH VERTICAL STROKE,zrDOUBLE VERTICAL STROKE,kARROW THROUGH X",
    "aWAVE ARROW POINTING DIRECTLY LEFT,aEQUALS SIGN ABOVE LEFTWARDS ARROW",
    "aREVERSE TILDE OPERATOR ABOVE LEFTWARDS ARROW,aLEFTWARDS ARROW ABOVE REVERSE ALMOST EQUAL TO",
    "aRIGHTWARDS ARROW THROUGH GREATER-THAN,zSUPERSET,aLEFTWARDS QUADRUPLE ARROW",
    "aRIGHTWARDS QUADRUPLE ARROW,bEVERSE TILDE OPERATOR ABOVE RIGHTWARDS ARROW",
    "bIGHTWARDS ARROW ABOVE REVERSE ALMOST EQUAL TO,aTILDE OPERATOR ABOVE LEFTWARDS ARROW",
    "aLEFTWARDS ARROW ABOVE ALMOST EQUAL TO,wREVERSE TILDE OPERATOR",
    "aRIGHTWARDS ARROW ABOVE REVERSE TILDE OPERATOR,aDOWNWARDS TRIANGLE-HEADED ZIGZAG ARROW",
    "aSHORT SLANTED NORTH ARROW,gBACKSLANTED SOUTH ARROW,aWHITE MEDIUM STAR,aBLACK SMALL STAR",
    "aWHITE SMALL STAR,aBLACK RIGHT-POINTING PENTAGON,aWHITE RIGHT-POINTING PENTAGON",
    "aHEAVY LARGE CIRCLE,gOVAL WITH OVAL INSIDE,gCIRCLE WITH CIRCLE INSIDE,lE,mD SALTIRE",
    "aSLANTED NORTH ARROW WITH HOOKED HEAD,aBACKSLANTED SOUTH ARROW WITH HOOKED TAIL",
    "aSLANTED NORTH ARROW WITH HORIZONTAL TAIL,aBACKSLANTED SOUTH ARROW WITH HORIZONTAL TAIL",
    "bENT ARROW POINTING DOWNWARDS THEN NORTH EAST",
    "aSHORT BENT ARROW POINTING DOWNWARDS THEN NORTH EAST,aLEFTWARDS TRIANGLE-HEADED ARROW",
    "aUPWARDS TRIANGLE-HEADED ARROW,aRIGHTWARDS TRIANGLE-HEADED ARROW",
    "aDOWNWARDS TRIANGLE-HEADED ARROW,aLEFT RIGHT TRIANGLE-HEADED ARROW",
    "aUP DOWN TRIANGLE-HEADED ARROW,aNORTH WEST TRIANGLE-HEADED ARROW,gEAST TRIANGLE-HEADED ARROW",
    "aSOUTH EAST TRIANGLE-HEADED ARROW,gWEST TRIANGLE-HEADED ARROW",
    "aLEFTWARDS TRIANGLE-HEADED DASHED ARROW,aUPWARDS TRIANGLE-HEADED DASHED ARROW",
    "aRIGHTWARDS TRIANGLE-HEADED DASHED ARROW,aDOWNWARDS TRIANGLE-HEADED DASHED ARROW",
    "aCLOCKWISE TRIANGLE-HEADED OPEN CIRCLE ARROW,aANTICLOCKWISE TRIANGLE-HEADED OPEN CIRCLE ARROW",
    "aLEFTWARDS TRIANGLE-HEADED ARROW TO BAR,aUPWARDS TRIANGLE-HEADED ARROW TO BAR",
    "aRIGHTWARDS TRIANGLE-HEADED ARROW TO BAR,aDOWNWARDS TRIANGLE-HEADED ARROW TO BAR",
    "=2B76aNORTH WEST TRIANGLE-HEADED ARROW TO BAR,gEAST TRIANGLE-HEADED ARROW TO BAR",
    "aSOUTH EAST TRIANGLE-HEADED ARROW TO BAR,gWEST TRIANGLE-HEADED ARROW TO BAR",
    "aLEFTWARDS TRIANGLE-HEADED ARROW WITH DOUBLE HORIZONTAL STROKE",
    "aUPWARDS TRIANGLE-HEADED ARROW WITH DOUBLE HORIZONTAL STROKE",
    "aRIGHTWARDS TRIANGLE-HEADED ARROW WITH DOUBLE HORIZONTAL STROKE",
    "aDOWNWARDS TRIANGLE-HEADED ARROW WITH DOUBLE HORIZONTAL STROKE,aHORIZONTAL TAB KEY",
    "aVERTICAL TAB KEY,aLEFTWARDS TRIANGLE-HEADED ARROW OVER RIGHTWARDS TRIANGLE-HEADED ARROW",
    "aUPWARDS TRIANGLE-HEADED ARROW LEFTWARDS OF DOWNWARDS TRIANGLE-HEADED ARROW",
    "aRIGHTWARDS TRIANGLE-HEADED ARROW OVER LEFTWARDS TRIANGLE-HEADED ARROW",
    "aDOWNWARDS TRIANGLE-HEADED ARROW LEFTWARDS OF UPWARDS TRIANGLE-HEADED ARROW",
    "aLEFTWARDS TRIANGLE-HEADED PAIRED ARROWS,aUPWARDS TRIANGLE-HEADED PAIRED ARROWS",
    "aRIGHTWARDS TRIANGLE-HEADED PAIRED ARROWS,aDOWNWARDS TRIANGLE-HEADED PAIRED ARROWS",
    "aLEFTWARDS BLACK CIRCLED WHITE ARROW,aUPWARDS BLACK CIRCLED WHITE ARROW",
    "aRIGHTWARDS BLACK CIRCLED WHITE ARROW,aDOWNWARDS BLACK CIRCLED WHITE ARROW",
    "aANTICLOCKWISE TRIANGLE-HEADED RIGHT U-SHAPED ARROW,zfBOTTOM U-SHAPED ARROW",
    "zfLEFT U-SHAPED ARROW,zfTOP U-SHAPED ARROW,aRETURN LEFT,hRIGHT,aNEWLINE LEFT,iRIGHT",
    "aFOUR CORNER ARROWS CIRCLING ANTICLOCKWISE,aRIGHTWARDS BLACK ARROW",
    "=2B97aSYMBOL FOR TYPE A ELECTRONICS,aTHREE-D TOP-LIGHTED LEFTWARDS EQUILATERAL ARROWHEAD",
    "iRIGHT-LIGHTED UPWARDS EQUILATERAL ARROWHEAD,iTOP-LIGHTED RIGHTWARDS EQUILATERAL ARROWHEAD",
    "iLEFT-LIGHTED DOWNWARDS EQUILATERAL ARROWHEAD,aBLACK LEFTWARDS EQUILATERAL ARROWHEAD",
    "gUPWARDS EQUILATERAL ARROWHEAD,gRIGHTWARDS EQUILATERAL ARROWHEAD",
    "gDOWNWARDS EQUILATERAL ARROWHEAD,aDOWNWARDS TRIANGLE-HEADED ARROW WITH LONG TIP LEFTWARDS",
    "zvRIGHTWARDS,aUPWARDS TRIANGLE-HEADED ARROW WITH LONG TIP LEFTWARDS,ztRIGHTWARDS",
    "aLEFTWARDS TRIANGLE-HEADED ARROW WITH LONG TIP UPWARDS",
    "aRIGHTWARDS TRIANGLE-HEADED ARROW WITH LONG TIP UPWARDS",
    "aLEFTWARDS TRIANGLE-HEADED ARROW WITH LONG TIP DOWNWARDS",
    "aRIGHTWARDS TRIANGLE-HEADED ARROW WITH LONG TIP DOWNWARDS",
    "aBLACK CURVED DOWNWARDS AND LEFTWARDS ARROW,zcRIGHTWARDS ARROW,nUPWARDS AND LEFTWARDS ARROW",
    "zRIGHTWARDS ARROW,nLEFTWARDS AND UPWARDS ARROW,nRIGHTWARDS AND UPWARDS ARROW",
    "nLEFTWARDS AND DOWNWARDS ARROW,nRIGHTWARDS AND DOWNWARDS ARROW,aRIBBON ARROW DOWN LEFT,sRIGHT",
    "nUP LEFT,qRIGHT,nLEFT UP,nRIGHT UP,nLEFT DOWN,nRIGHT DOWN",
    "aUPWARDS WHITE ARROW FROM BAR WITH HORIZONTAL BAR,c ARROWHEAD IN A RECTANGLE BOX",
    "aOVERLAPPING WHITE SQUARES,sAND BLACK SQUARES,mBLACK SQUARES,aBALLOT BOX WITH LIGHT X",
    "aCIRCLED X,iBOLD X,aBLACK SQUARE CENTRED,gDIAMOND CENTRED,aTURNED BLACK PENTAGON",
    "aHORIZONTAL BLACK OCTAGON,aBLACK OCTAGON,gMEDIUM UP-POINTING TRIANGLE CENTRED",
    "nDOWN-POINTING TRIANGLE CENTRED,nLEFT-POINTING TRIANGLE CENTRED",
    "nRIGHT-POINTING TRIANGLE CENTRED,aNEPTUNE FORM TWO,aTOP HALF BLACK CIRCLE",
    "aBOTTOM HALF BLACK CIRCLE,aLIGHT FOUR POINTED BLACK CUSP",
    "aROTATED LIGHT FOUR POINTED BLACK CUSP,aWHITE FOUR POINTED CUSP",
    "aROTATED WHITE FOUR POINTED CUSP,aSQUARE POSITION INDICATOR,aUNCERTAINTY SIGN,aGROUP MARK",
    "aPLUTO FORM TWO,mHREE,lFOUR,mIVE,aTRANSPLUTO,aPROSERPINA,aASTRAEA,aHYGIEA,aPHOLUS,aNESSUS",
    "aWHITE MOON SELENA,aBLACK DIAMOND ON CROSS,aTRUE LIGHT MOON ARTA,aCUPIDO,aHADES,aZEUS,aKRONOS",
    "aAPOLLON,bDMETOS,aVULCANUS,aPOSEIDON,aLEFT HALF BLACK STAR,aRIGHT HALF BLACK STAR",
    "aSTAR WITH LEFT HALF BLACK,kRIGHT HALF BLACK",
    "aLEFTWARDS TWO-HEADED ARROW WITH TRIANGLE ARROWHEADS",
    "aUPWARDS TWO-HEADED ARROW WITH TRIANGLE ARROWHEADS",
    "aRIGHTWARDS TWO-HEADED ARROW WITH TRIANGLE ARROWHEADS",
    "aDOWNWARDS TWO-HEADED ARROW WITH TRIANGLE ARROWHEADS,aERIS FORM ONE,kTWO,aSEDNA",
    "aRUSSIAN ASTROLOGICAL SYMBOL VIGINTILE,zdNOVILE,zdQUINTILE,zdBINOVILE,zdSENTAGON,zdTREDECILE",
    "aEQUALS SIGN WITH INFINITY BELOW,aUNITED SYMBOL,aSEPARATED SYMBOL,aDOUBLED SYMBOL",
    "aPASSED SYMBOL,aREVERSED RIGHT ANGLE,aHELLSCHREIBER PAUSE SYMBOL",
    "aGLAGOLITIC CAPITAL LETTER AZU,zbBUKY,zbVEDE,zbGLAGOLI,zbDOBRO,zbYESTU,zbZHIVETE,zbDZELO",
    "zbZEMLJA,zbIZHE,zcNITIAL IZHE,zbI,zbDJERVI,zbKAKO,zbLJUDIJE,zbMYSLITE,zbNASHI,zbONU,zbPOKOJI",
    "zbRITSI,zbSLOVO,zbTVRIDO,zbUKU,zbFRITU,zbHERU,zbOTU,zbPE,zbSHTA,zbTSI,zbCHRIVI,zbSHA,zbYERU",
    "zeI,zcATI,zbSPIDERY HA,zbYU,zbSMALL YUS,zk WITH TAIL,zbYO,zbIOTATED SMALL YUS,zbBIG YUS",
    "zbIOTATED BIG YUS,zbFITA,zbIZHITSA,zbSHTAPIC,zbTROKUTASTI A,zbLATINATE MYSLITE",
    "zbCAUDATE CHRIVI,lSMALL LETTER AZU,yBUKY,yVEDE,yGLAGOLI,yDOBRO,yYESTU,yZHIVETE,yDZELO,yZEMLJA",
    "yIZHE,zNITIAL IZHE,yI,yDJERVI,yKAKO,yLJUDIJE,yMYSLITE,yNASHI,yONU,yPOKOJI,yRITSI,ySLOVO",
    "yTVRIDO,yUKU,yFRITU,yHERU,yOTU,yPE,ySHTA,yTSI,yCHRIVI,ySHA,yYERU,zcI,zATI,ySPIDERY HA,yYU",
    "ySMALL YUS,zi WITH TAIL,yYO,yIOTATED SMALL YUS,yBIG YUS,yIOTATED BIG YUS,yFITA,yIZHITSA",
    "ySHTAPIC,yTROKUTASTI A,yLATINATE MYSLITE,yCAUDATE CHRIVI",
    "aLATIN CAPITAL LETTER L WITH DOUBLE BAR,gSMALL LETTER L WITH DOUBLE BAR",
    "gCAPITAL LETTER L WITH MIDDLE TILDE,vP WITH STROKE,vR WITH TAIL,gSMALL LETTER A WITH STROKE",
    "tT WITH DIAGONAL STROKE,gCAPITAL LETTER H WITH DESCENDER,gSMALL LETTER H WITH DESCENDER",
    "gCAPITAL LETTER K WITH DESCENDER,gSMALL LETTER K WITH DESCENDER",
    "gCAPITAL LETTER Z WITH DESCENDER,gSMALL LETTER Z WITH DESCENDER,gCAPITAL LETTER ALPHA",
    "vM WITH HOOK,vTURNED A,zeLPHA,gSMALL LETTER V WITH RIGHT HOOK,gCAPITAL LETTER W WITH HOOK",
    "gSMALL LETTER W WITH HOOK,tV WITH CURL,gCAPITAL LETTER HALF H,gSMALL LETTER HALF H",
    "tTAILLESS PHI,tE WITH NOTCH,tTURNED R WITH TAIL,tO WITH LOW RING INSIDE",
    "gLETTER SMALL CAPITAL TURNED E,gSUBSCRIPT SMALL LETTER J,aMODIFIER LETTER CAPITAL V",
    "aLATIN CAPITAL LETTER S WITH SWASH TAIL,vZ WITH SWASH TAIL,aCOPTIC CAPITAL LETTER ALFA",
    "hSMALL LETTER ALFA,hCAPITAL LETTER VIDA,hSMALL LETTER VIDA,hCAPITAL LETTER GAMMA",
    "hSMALL LETTER GAMMA,hCAPITAL LETTER DALDA,hSMALL LETTER DALDA,hCAPITAL LETTER EIE",
    "hSMALL LETTER EIE,hCAPITAL LETTER SOU,hSMALL LETTER SOU,hCAPITAL LETTER ZATA",
    "hSMALL LETTER ZATA,hCAPITAL LETTER HATE,hSMALL LETTER HATE,hCAPITAL LETTER THETHE",
    "hSMALL LETTER THETHE,hCAPITAL LETTER IAUDA,hSMALL LETTER IAUDA,hCAPITAL LETTER KAPA",
    "hSMALL LETTER KAPA,hCAPITAL LETTER LAULA,hSMALL LETTER LAULA,hCAPITAL LETTER MI",
    "hSMALL LETTER MI,hCAPITAL LETTER NI,hSMALL LETTER NI,hCAPITAL LETTER KSI,hSMALL LETTER KSI",
    "hCAPITAL LETTER O,hSMALL LETTER O,hCAPITAL LETTER PI,hSMALL LETTER PI,hCAPITAL LETTER RO",
    "hSMALL LETTER RO,hCAPITAL LETTER SIMA,hSMALL LETTER SIMA,hCAPITAL LETTER TAU,hSMALL LETTER TAU",
    "hCAPITAL LETTER UA,hSMALL LETTER UA,hCAPITAL LETTER FI,hSMALL LETTER FI,hCAPITAL LETTER KHI",
    "hSMALL LETTER KHI,hCAPITAL LETTER PSI,hSMALL LETTER PSI,hCAPITAL LETTER OOU,hSMALL LETTER OOU",
    "hCAPITAL LETTER DIALECT-P ALEF,hSMALL LETTER DIALECT-P ALEF,hCAPITAL LETTER OLD COPTIC AIN",
    "hSMALL LETTER OLD COPTIC AIN,hCAPITAL LETTER CRYPTOGRAMMIC EIE,hSMALL LETTER CRYPTOGRAMMIC EIE",
    "hCAPITAL LETTER DIALECT-P KAPA,hSMALL LETTER DIALECT-P KAPA,hCAPITAL LETTER DIALECT-P NI",
    "hSMALL LETTER DIALECT-P NI,hCAPITAL LETTER CRYPTOGRAMMIC NI,hSMALL LETTER CRYPTOGRAMMIC NI",
    "hCAPITAL LETTER OLD COPTIC OOU,hSMALL LETTER OLD COPTIC OOU,hCAPITAL LETTER SAMPI",
    "hSMALL LETTER SAMPI,hCAPITAL LETTER CROSSED SHEI,hSMALL LETTER CROSSED SHEI",
    "hCAPITAL LETTER OLD COPTIC SHEI,hSMALL LETTER OLD COPTIC SHEI,hCAPITAL LETTER OLD COPTIC ESH",
    "hSMALL LETTER OLD COPTIC ESH,hCAPITAL LETTER AKHMIMIC KHEI,hSMALL LETTER AKHMIMIC KHEI",
    "hCAPITAL LETTER DIALECT-P HORI,hSMALL LETTER DIALECT-P HORI,hCAPITAL LETTER OLD COPTIC HORI",
    "hSMALL LETTER OLD COPTIC HORI,hCAPITAL LETTER OLD COPTIC HA,hSMALL LETTER OLD COPTIC HA",
    "hCAPITAL LETTER L-SHAPED HA,hSMALL LETTER L-SHAPED HA,hCAPITAL LETTER OLD COPTIC HEI",
    "hSMALL LETTER OLD COPTIC HEI,hCAPITAL LETTER OLD COPTIC HAT,hSMALL LETTER OLD COPTIC HAT",
    "hCAPITAL LETTER OLD COPTIC GANGIA,hSMALL LETTER OLD COPTIC GANGIA",
    "hCAPITAL LETTER OLD COPTIC DJA,hSMALL LETTER OLD COPTIC DJA,hCAPITAL LETTER OLD COPTIC SHIMA",
    "hSMALL LETTER OLD COPTIC SHIMA,hCAPITAL LETTER OLD NUBIAN SHIMA,hSMALL LETTER OLD NUBIAN SHIMA",
    "hCAPITAL LETTER OLD NUBIAN NGI,hSMALL LETTER OLD NUBIAN NGI,hCAPITAL LETTER OLD NUBIAN NYI",
    "hSMALL LETTER OLD NUBIAN NYI,hCAPITAL LETTER OLD NUBIAN WAU,hSMALL LETTER OLD NUBIAN WAU",
    "iYMBOL KAI,oMI RO,oPI RO,oSTAUROS,oTAU RO,oKHI RO,oSHIMA SIMA",
    "hCAPITAL LETTER CRYPTOGRAMMIC SHEI,hSMALL LETTER CRYPTOGRAMMIC SHEI",
    "hCAPITAL LETTER CRYPTOGRAMMIC GANGIA,hSMALL LETTER CRYPTOGRAMMIC GANGIA,hCOMBINING NI ABOVE",
    "rSPIRITUS ASPER,zbLENIS,iAPITAL LETTER BOHAIRIC KHEI,hSMALL LETTER BOHAIRIC KHEI",
    "=2CF9hOLD NUBIAN FULL STOP,sDIRECT QUESTION MARK,sINDIRECT QUESTION MARK,sVERSE DIVIDER",
    "hFRACTION ONE HALF,iULL STOP,hMORPHOLOGICAL DIVIDER,aGEORGIAN SMALL LETTER AN,wBAN,wGAN,wDON",
    "wEN,wVIN,wZEN,wTAN,wIN,wKAN,wLAS,wMAN,wNAR,wON,wPAR,wZHAR,wRAE,wSAN,wTAR,wUN,wPHAR,wKHAR,wGHAN",
    "wQAR,wSHIN,wCHIN,xAN,wJIL,wCIL,xHAR,wXAN,wJHAN,wHAE,xE,xIE,wWE,wHAR,xOE,=2D27wYN,=2D2DwAEN",
    "=2D30aTIFINAGH LETTER YA,sB,tH,sG,tHH,qBERBER ACADEMY YAJ,qYAJ,sD,tH,tD,uH,rEY,rAF,sK",
    "qTUAREG YAK,qYAKHH,sH,qBERBER ACADEMY YAH,qTUAREG YAH,qYAHH,sA,sKH,qTUAREG YAKH,qYAQ",
    "qTUAREG YAQ,qYI,rAZH,qAHAGGAR YAZH,qTUAREG YAZH,qYAL,sM,sN,qTUAREG YAGN,zNG,qYAP,rU,rAR,tR,sGH",
    "qTUAREG YAGH,qAYER YAGH,qYAS,tS,tH,sT,tH,sCH,sTT,sV,sW,sY,sZ,qTAWELLEMET YAZ,qYAZZ,rE,rO",
    "=2D6FjMODIFIER LETTER LABIALIZATION MARK,jSEPARATOR MARK,=2D7FjCONSONANT JOINER",
    "aETHIOPIC SYLLABLE LOA,sMOA,sROA,sSOA,tHOA,sBOA,sTOA,sCOA,sNOA,tYOA,sGLOTTAL OA,sZOA,sDOA,tDOA",
    "sJOA,sTHOA,sCHOA,sPHOA,tOA,sGGWA,vI,vEE,vE,=2DA0sSSA,uU,uI,uAA,uEE,uE,uO,=2DA8sCCA,uU,uI,uAA",
    "uEE,uE,uO,=2DB0sZZA,uU,uI,uAA,uEE,uE,uO,=2DB8sCCHA,vU,vI,vAA,vEE,vE,vO,=2DC0sQYA,uU,uI,uAA,uEE",
    "uE,uO,=2DC8sKYA,uU,uI,uAA,uEE,uE,uO,=2DD0sXYA,uU,uI,uAA,uEE,uE,uO,=2DD8sGYA,uU,uI,uAA,uEE,uE",
    "uO,=2DE0aCOMBINING CYRILLIC LETTER BE,zbVE,zbGHE,zbDE,zbZHE,zcE,zbKA,zbEL,zcM,zcN,zbO,zbPE",
    "zbER,zcS,zbTE,zbHA,zbTSE,zbCHE,zbSHA,zdCHA,zbFITA,zbES-TE,zbA,zbIE,zbDJERV,zbMONOGRAPH UK",
    "zbYAT,zcU,zbIOTIFIED A,zbLITTLE YUS,zbBIG YUS,zbIOTIFIED BIG YUS",
    "aRIGHT ANGLE SUBSTITUTION MARKER,mDOTTED SUBSTITUTION MARKER,aLEFT SUBSTITUTION BRACKET",
    "aRIGHT SUBSTITUTION BRACKET,aLEFT DOTTED SUBSTITUTION BRACKET",
    "aRIGHT DOTTED SUBSTITUTION BRACKET,bAISED INTERPOLATION MARKER,hDOTTED INTERPOLATION MARKER",
    "aDOTTED TRANSPOSITION MARKER,aLEFT TRANSPOSITION BRACKET,aRIGHT TRANSPOSITION BRACKET",
    "bAISED SQUARE,aLEFT RAISED OMISSION BRACKET,aRIGHT RAISED OMISSION BRACKET,aEDITORIAL CORONIS",
    "aPARAGRAPHOS,aFORKED PARAGRAPHOS,aREVERSED FORKED PARAGRAPHOS,aHYPODIASTOLE,aDOTTED OBELOS",
    "cWNWARDS ANCORA,aUPWARDS ANCORA,aDOTTED RIGHT-POINTING ANGLE,cUBLE OBLIQUE HYPHEN",
    "aINVERTED INTERROBANG,aPALM BRANCH,aHYPHEN WITH DIAERESIS,aTILDE WITH RING ABOVE",
    "aLEFT LOW PARAPHRASE BRACKET,aRIGHT LOW PARAPHRASE BRACKET,aTILDE WITH DOT ABOVE,pBELOW",
    "aLEFT VERTICAL BAR WITH QUILL,aRIGHT VERTICAL BAR WITH QUILL,aTOP LEFT HALF BRACKET",
    "eRIGHT HALF BRACKET,aBOTTOM LEFT HALF BRACKET,hRIGHT HALF BRACKET,aLEFT SIDEWAYS U BRACKET",
    "aRIGHT SIDEWAYS U BRACKET,aLEFT DOUBLE PARENTHESIS,aRIGHT DOUBLE PARENTHESIS",
    "aTWO DOTS OVER ONE DOT PUNCTUATION,aONE DOT OVER TWO DOTS PUNCTUATION",
    "aSQUARED FOUR DOT PUNCTUATION,aFIVE DOT MARK,aREVERSED QUESTION MARK,aVERTICAL TILDE",
    "aRING POINT,aWORD SEPARATOR MIDDLE DOT,aTURNED COMMA,aRAISED DOT,hCOMMA,aTURNED SEMICOLON",
    "aDAGGER WITH LEFT GUARD,mRIGHT GUARD,aTURNED DAGGER,bOP HALF SECTION SIGN,bWO-EM DASH",
    "bHREE-EM DASH,aSTENOGRAPHIC FULL STOP,aVERTICAL SIX DOTS,aWIGGLY VERTICAL LINE,aCAPITULUM",
    "aDOUBLE HYPHEN,aREVERSED COMMA,aDOUBLE LOW-REVERSED-9 QUOTATION MARK,bASH WITH LEFT UPTURN",
    "bOUBLE SUSPENSION MARK,aINVERTED LOW KAVYKA,t WITH KAVYKA ABOVE,aLOW KAVYKA,k WITH DOT",
    "aDOUBLE STACKED COMMA,cTTED SOLIDUS,aTRIPLE DAGGER,aMEDIEVAL COMMA,aPARAGRAPHUS MARK",
    "bUNCTUS ELEVATUS MARK,aCORNISH VERSE DIVIDER,bROSS PATTY WITH RIGHT CROSSBAR,rLEFT CROSSBAR",
    "aTIRONIAN SIGN CAPITAL ET,aMEDIEVAL EXCLAMATION MARK,jQUESTION MARK",
    "aLEFT SQUARE BRACKET WITH STROKE,aRIGHT SQUARE BRACKET WITH STROKE",
    "aLEFT SQUARE BRACKET WITH DOUBLE STROKE,aRIGHT SQUARE BRACKET WITH DOUBLE STROKE",
    "aTOP HALF LEFT PARENTHESIS,jRIGHT PARENTHESIS,aBOTTOM HALF LEFT PARENTHESIS,mRIGHT PARENTHESIS",
    "aOBLIQUE HYPHEN,=2E80aCJK RADICAL REPEAT,mCLIFF,mSECOND ONE,tTWO,uHREE,mPERSON,mBOX,mTABLE",
    "mKNIFE ONE,sTWO,mDIVINATION,mSEAL,nMALL ONE,sTWO,mLAME ONE,rTWO,sHREE,rFOUR,mSNAKE,mTHREAD",
    "mSNOUT ONE,sTWO,mHEART ONE,sTWO,nAND,mRAP,=2E9BmCHOKE,mSUN,mMOON,mDEATH,mMOTHER,mCIVILIAN",
    "mWATER ONE,sTWO,mFIRE,mPAW ONE,qTWO,mSIMPLIFIED HALF TREE TRUNK,mCOW,mDOG,mJADE,mBOLT OF CLOTH",
    "mEYE,mSPIRIT ONE,tTWO,mBAMBOO,mSILK,mC-SIMPLIFIED SILK,mNET ONE,qTWO,rHREE,qFOUR,mMESH,mSHEEP",
    "mRAM,mEWE,mOLD,mBRUSH ONE,sTWO,mMEAT,nORTAR,mGRASS ONE,sTWO,tHREE,mTIGER,mCLOTHES,mWEST ONE",
    "rTWO,mC-SIMPLIFIED SEE,mSIMPLIFIED HORN,mHORN,mC-SIMPLIFIED SPEECH,zbHELL,mFOOT",
    "mC-SIMPLIFIED CART,mSIMPLIFIED WALK,mWALK ONE,rTWO,mCITY,n-SIMPLIFIED GOLD,mLONG ONE,rTWO",
    "mC-SIMPLIFIED LONG,zGATE,mMOUND ONE,sTWO,mRAIN,mBLUE,mC-SIMPLIFIED TANNED LEATHER,zLEAF,zWIND",
    "zFLY,mEAT ONE,qTWO,rHREE,mC-SIMPLIFIED EAT,mHEAD,mC-SIMPLIFIED HORSE,mBONE,mGHOST",
    "mC-SIMPLIFIED FISH,zBIRD,zSALT,mSIMPLIFIED WHEAT,xYELLOW,mC-SIMPLIFIED FROG,mJ-SIMPLIFIED EVEN",
    "mC-SIMPLIFIED EVEN,mJ-SIMPLIFIED TOOTH,mC-SIMPLIFIED TOOTH,mJ-SIMPLIFIED DRAGON",
    "mC-SIMPLIFIED DRAGON,mTURTLE,mJ-SIMPLIFIED TURTLE,mC-SIMPLIFIED TURTLE",
    "=2F00aKANGXI RADICAL ONE,pLINE,pDOT,pSLASH,qECOND,pHOOK,pTWO,pLID,pMAN,pLEGS,pENTER,qIGHT",
    "pDOWN BOX,pCOVER,pICE,pTABLE,pOPEN BOX,pKNIFE,pPOWER,pWRAP,pSPOON,pRIGHT OPEN BOX",
    "pHIDING ENCLOSURE,pTEN,pDIVINATION,pSEAL,pCLIFF,pPRIVATE,pAGAIN,pMOUTH,pENCLOSURE,qARTH",
    "pSCHOLAR,pGO,r SLOWLY,pEVENING,pBIG,pWOMAN,pCHILD,pROOF,pINCH,pSMALL,pLAME,pCORPSE,pSPROUT",
    "pMOUNTAIN,pRIVER,pWORK,pONESELF,pTURBAN,pDRY,pSHORT THREAD,pDOTTED CLIFF,pLONG STRIDE",
    "pTWO HANDS,pSHOOT,pBOW,pSNOUT,pBRISTLE,pSTEP,pHEART,qALBERD,pDOOR,pHAND,pBRANCH,pRAP,pSCRIPT",
    "pDIPPER,pAXE,pSQUARE,pNOT,pSUN,qAY,pMOON,pTREE,pLACK,pSTOP,pDEATH,pWEAPON,pDO NOT,pCOMPARE",
    "pFUR,pCLAN,pSTEAM,pWATER,pFIRE,pCLAW,pFATHER,pDOUBLE X,pHALF TREE TRUNK,pSLICE,pFANG,pCOW,pDOG",
    "pPROFOUND,pJADE,pMELON,pTILE,pSWEET,pLIFE,pUSE,pFIELD,pBOLT OF CLOTH,pSICKNESS,pDOTTED TENT",
    "pWHITE,pSKIN,pDISH,pEYE,pSPEAR,pARROW,pSTONE,qPIRIT,pTRACK,pGRAIN,pCAVE,pSTAND,pBAMBOO,pRICE",
    "pSILK,pJAR,pNET,pSHEEP,pFEATHER,pOLD,pAND,pPLOW,pEAR,pBRUSH,pMEAT,qINISTER,pSELF,pARRIVE",
    "pMORTAR,pTONGUE,pOPPOSE,pBOAT,pSTOPPING,pCOLOR,pGRASS,pTIGER,pINSECT,pBLOOD,pWALK ENCLOSURE",
    "pCLOTHES,pWEST,pSEE,pHORN,pSPEECH,pVALLEY,pBEAN,pPIG,pBADGER,pSHELL,pRED,qUN,pFOOT,pBODY,pCART",
    "pBITTER,pMORNING,pWALK,pCITY,pWINE,pDISTINGUISH,pVILLAGE,pGOLD,pLONG,pGATE,pMOUND,pSLAVE",
    "qHORT TAILED BIRD,pRAIN,pBLUE,pWRONG,pFACE,pLEATHER,pTANNED LEATHER,pLEEK,pSOUND,pLEAF,pWIND",
    "pFLY,pEAT,pHEAD,pFRAGRANT,pHORSE,pBONE,pTALL,pHAIR,pFIGHT,pSACRIFICIAL WINE,pCAULDRON,pGHOST",
    "pFISH,pBIRD,pSALT,pDEER,pWHEAT,pHEMP,pYELLOW,pMILLET,pBLACK,pEMBROIDERY,pFROG,pTRIPOD,pDRUM",
    "pRAT,pNOSE,pEVEN,pTOOTH,pDRAGON,pTURTLE,pFLUTE",
    "=2FF0aIDEOGRAPHIC DESCRIPTION CHARACTER LEFT TO RIGHT,zjABOVE TO BELOW",
    "zjLEFT TO MIDDLE AND RIGHT,zjABOVE TO MIDDLE AND BELOW,zjFULL SURROUND,zjSURROUND FROM ABOVE",
    "zxBELOW,zxLEFT,zxUPPER LEFT,zzeRIGHT,zxLOWER LEFT,zjOVERLAID"]

end Reconcile.Text.CharName
