/-!
# Names of characters from U+3000 to U+EFFF

The lines are read by `Reconcile.Text.CharName`.
-/

namespace Reconcile.Text.CharName

/-- The names of the characters from U+3000 to U+EFFF. -/
def namesFrom3000 : List String :=
  [
    "=3000aIDEOGRAPHIC SPACE,mCOMMA,mFULL STOP,aDITTO MARK,aJAPANESE INDUSTRIAL STANDARD SYMBOL",
    "aIDEOGRAPHIC ITERATION MARK,mCLOSING MARK,mNUMBER ZERO,aLEFT ANGLE BRACKET",
    "aRIGHT ANGLE BRACKET,aLEFT DOUBLE ANGLE BRACKET,aRIGHT DOUBLE ANGLE BRACKET",
    "aLEFT CORNER BRACKET,aRIGHT CORNER BRACKET,aLEFT WHITE CORNER BRACKET",
    "aRIGHT WHITE CORNER BRACKET,aLEFT BLACK LENTICULAR BRACKET,aRIGHT BLACK LENTICULAR BRACKET",
    "aPOSTAL MARK,aGETA MARK,aLEFT TORTOISE SHELL BRACKET,aRIGHT TORTOISE SHELL BRACKET",
    "aLEFT WHITE LENTICULAR BRACKET,aRIGHT WHITE LENTICULAR BRACKET",
    "aLEFT WHITE TORTOISE SHELL BRACKET,aRIGHT WHITE TORTOISE SHELL BRACKET",
    "aLEFT WHITE SQUARE BRACKET,aRIGHT WHITE SQUARE BRACKET,aWAVE DASH",
    "aREVERSED DOUBLE PRIME QUOTATION MARK,aDOUBLE PRIME QUOTATION MARK",
    "aLOW DOUBLE PRIME QUOTATION MARK,aPOSTAL MARK FACE,aHANGZHOU NUMERAL ONE,rTWO,sHREE,rFOUR,sIVE",
    "rSIX,sEVEN,rEIGHT,rNINE,aIDEOGRAPHIC LEVEL TONE MARK,mRISING TONE MARK,mDEPARTING TONE MARK",
    "mENTERING TONE MARK,aHANGUL SINGLE DOT TONE MARK,hDOUBLE DOT TONE MARK,aWAVY DASH",
    "aVERTICAL KANA REPEAT MARK,vWITH VOICED SOUND MARK,vMARK UPPER HALF",
    "vWITH VOICED SOUND MARK UPPER HALF,vMARK LOWER HALF,aCIRCLED POSTAL MARK",
    "aIDEOGRAPHIC TELEGRAPH LINE FEED SEPARATOR SYMBOL,aHANGZHOU NUMERAL TEN,sWENTY,sHIRTY",
    "aVERTICAL IDEOGRAPHIC ITERATION MARK,aMASU MARK,aPART ALTERNATION MARK",
    "aIDEOGRAPHIC VARIATION INDICATOR,mHALF FILL SPACE,=3041aHIRAGANA LETTER SMALL A,qA,qSMALL I,qI",
    "qSMALL U,qU,qSMALL E,qE,qSMALL O,qO,qKA,qGA,qKI,qGI,qKU,qGU,qKE,qGE,qKO,qGO,qSA,qZA,qSI,qZI",
    "qSU,qZU,qSE,qZE,qSO,qZO,qTA,qDA,qTI,qDI,qSMALL TU,qTU,qDU,qTE,qDE,qTO,qDO,qNA,rI,rU,rE,rO,qHA",
    "qBA,qPA,qHI,qBI,qPI,qHU,qBU,qPU,qHE,qBE,qPE,qHO,qBO,qPO,qMA,rI,rU,rE,rO,qSMALL YA,qYA",
    "qSMALL YU,qYU,qSMALL YO,qYO,qRA,rI,rU,rE,rO,qSMALL WA,qWA,rI,rE,rO,qN,qVU,qSMALL KA,xE",
    "=3099aCOMBINING KATAKANA-HIRAGANA VOICED SOUND MARK,zdSEMI-VOICED SOUND MARK",
    "aKATAKANA-HIRAGANA VOICED SOUND MARK,sSEMI-VOICED SOUND MARK,aHIRAGANA ITERATION MARK",
    "jVOICED ITERATION MARK,jDIGRAPH YORI,aKATAKANA-HIRAGANA DOUBLE HYPHEN,i LETTER SMALL A,qA",
    "qSMALL I,qI,qSMALL U,qU,qSMALL E,qE,qSMALL O,qO,qKA,qGA,qKI,qGI,qKU,qGU,qKE,qGE,qKO,qGO,qSA",
    "qZA,qSI,qZI,qSU,qZU,qSE,qZE,qSO,qZO,qTA,qDA,qTI,qDI,qSMALL TU,qTU,qDU,qTE,qDE,qTO,qDO,qNA,rI",
    "rU,rE,rO,qHA,qBA,qPA,qHI,qBI,qPI,qHU,qBU,qPU,qHE,qBE,qPE,qHO,qBO,qPO,qMA,rI,rU,rE,rO,qSMALL YA",
    "qYA,qSMALL YU,qYU,qSMALL YO,qYO,qRA,rI,rU,rE,rO,qSMALL WA,qWA,rI,rE,rO,qN,qVU,qSMALL KA,xE,qVA",
    "rI,rE,rO,jMIDDLE DOT,i-HIRAGANA PROLONGED SOUND MARK,i ITERATION MARK,jVOICED ITERATION MARK",
    "jDIGRAPH KOTO,=3105aBOPOMOFO LETTER B,qP,qM,qF,qD,qT,qN,qL,qG,qK,qH,qJ,qQ,qX,qZH,qCH,qSH,qR,qZ",
    "qC,qS,qA,qO,qE,rH,qAI,qEI,qAU,qOU,qAN,qEN,qANG,qENG,rR,qI,qU,qIU,qV,qNG,qGN,qIH",
    "qO WITH DOT ABOVE,qNN,=3131aHANGUL LETTER KIYEOK,oSSANGKIYEOK,oKIYEOK-SIOS,oNIEUN,t-CIEUC",
    "uHIEUH,oTIKEUT,oSSANGTIKEUT,oRIEUL,t-KIYEOK,uMIEUM,uPIEUP,uSIOS,uTHIEUTH,uPHIEUPH,uHIEUH",
    "oMIEUM,oPIEUP,oSSANGPIEUP,oPIEUP-SIOS,oSIOS,pSANGSIOS,oIEUNG,oCIEUC,oSSANGCIEUC,oCHIEUCH",
    "oKHIEUKH,oTHIEUTH,oPHIEUPH,oHIEUH,oA,pE,oYA,qE,oEO,oE,oYEO,pE,oO,oWA,qE,oOE,oYO,oU,oWEO,pE,pI",
    "oYU,oEU,oYI,oI,hFILLER,hLETTER SSANGNIEUN,oNIEUN-TIKEUT,uSIOS,uPANSIOS,oRIEUL-KIYEOK-SIOS",
    "uTIKEUT,uPIEUP-SIOS,vANSIOS,uYEORINHIEUH,oMIEUM-PIEUP,uSIOS,uPANSIOS,oKAPYEOUNMIEUM",
    "oPIEUP-KIYEOK,uTIKEUT,uSIOS-KIYEOK,zTIKEUT,uCIEUC,uTHIEUTH,oKAPYEOUNPIEUP,wSSANGPIEUP",
    "oSIOS-KIYEOK,tNIEUN,tTIKEUT,tPIEUP,tCIEUC,oPANSIOS,oSSANGIEUNG,oYESIEUNG,w-SIOS,xPANSIOS",
    "oKAPYEOUNPHIEUPH,oSSANGHIEUH,oYEORINHIEUH,pO-YA,tE,rI,pU-YEO,sE,rI,oARAEA,tE",
    "=3190aIDEOGRAPHIC ANNOTATION LINKING MARK,xREVERSE MARK,xONE MARK,xTWO MARK,yHREE MARK",
    "xFOUR MARK,xTOP MARK,xMIDDLE MARK,xBOTTOM MARK,xFIRST MARK,xSECOND MARK,xTHIRD MARK",
    "xFOURTH MARK,xHEAVEN MARK,xEARTH MARK,xMAN MARK,aBOPOMOFO LETTER BU,qZI,qJI,qGU,qEE,rNN,qOO",
    "rNN,qIR,qANN,qINN,qUNN,qIM,qNGG,qAINN,rUNN,rM,qOM,rNG,qINNN,jFINAL LETTER P,wT,wK,wH",
    "jLETTER GH,qLH,qZY,jFINAL LETTER G,jLETTER GW,qKW,qOE,qAH,aCJK STROKE T,lWG,lXG,lBXG,lSW,lHZZ",
    "nG,mP,mZWG,lSZWG,lHZT,nZP,mPWG,mZW,nZZ,lN,lH,lS,lP,lSP,lD,lHZ,mG,lSZ,mWZ,mT,mG,lPD,mZ,lTN,lSZZ",
    "mWG,lHXWG,mZZZG,lPG,lQ,=31F0aKATAKANA LETTER SMALL KU,wSI,xU,wTO,wNU,wHA,xI,xU,xE,xO,wMU,wRA",
    "xI,xU,xE,xO,aPARENTHESIZED HANGUL KIYEOK,vNIEUN,vTIKEUT,vRIEUL,vMIEUM,vPIEUP,vSIOS,vIEUNG",
    "vCIEUC,wHIEUCH,vKHIEUKH,vTHIEUTH,vPHIEUPH,vHIEUH,vKIYEOK A,vNIEUN A,vTIKEUT A,vRIEUL A",
    "vMIEUM A,vPIEUP A,vSIOS A,vIEUNG A,vCIEUC A,wHIEUCH A,vKHIEUKH A,vTHIEUTH A,vPHIEUPH A",
    "vHIEUH A,vCIEUC U,oKOREAN CHARACTER OJEON,zh HU,=3220oIDEOGRAPH ONE,yTWO,zHREE,yFOUR,zIVE,ySIX",
    "zEVEN,yEIGHT,yNINE,yTEN,yMOON,yFIRE,yWATER,zOOD,yMETAL,yEARTH,ySUN,zTOCK,yHAVE,ySOCIETY,yNAME",
    "ySPECIAL,yFINANCIAL,yCONGRATULATION,yLABOR,yREPRESENT,yCALL,ySTUDY,zUPERVISE,yENTERPRISE",
    "yRESOURCE,yALLIANCE,yFESTIVAL,yREST,ySELF,yREACH,aCIRCLED IDEOGRAPH QUESTION,sKINDERGARTEN",
    "sSCHOOL,sKOTO,iNUMBER TEN ON BLACK SQUARE,qWENTY ON BLACK SQUARE,qHIRTY ON BLACK SQUARE",
    "pFORTY ON BLACK SQUARE,qIFTY ON BLACK SQUARE,pSIXTY ON BLACK SQUARE,qEVENTY ON BLACK SQUARE",
    "pEIGHTY ON BLACK SQUARE,aPARTNERSHIP SIGN,aCIRCLED NUMBER TWENTY ONE,wTWO,xHREE,wFOUR,xIVE",
    "wSIX,xEVEN,wEIGHT,wNINE,qHIRTY,v ONE,wTWO,xHREE,wFOUR,xIVE,iHANGUL KIYEOK,pNIEUN,pTIKEUT",
    "pRIEUL,pMIEUM,pPIEUP,pSIOS,pIEUNG,pCIEUC,qHIEUCH,pKHIEUKH,pTHIEUTH,pPHIEUPH,pHIEUH,pKIYEOK A",
    "pNIEUN A,pTIKEUT A,pRIEUL A,pMIEUM A,pPIEUP A,pSIOS A,pIEUNG A,pCIEUC A,qHIEUCH A,pKHIEUKH A",
    "pTHIEUTH A,pPHIEUPH A,pHIEUH A,iKOREAN CHARACTER CHAMKO,zJUEUI,iHANGUL IEUNG U",
    "aKOREAN STANDARD SYMBOL,aCIRCLED IDEOGRAPH ONE,sTWO,tHREE,sFOUR,tIVE,sSIX,tEVEN,sEIGHT,sNINE",
    "sTEN,sMOON,sFIRE,sWATER,tOOD,sMETAL,sEARTH,sSUN,tTOCK,sHAVE,sSOCIETY,sNAME,sSPECIAL,sFINANCIAL",
    "sCONGRATULATION,sLABOR,sSECRET,sMALE,sFEMALE,sSUITABLE,sEXCELLENT,sPRINT,sATTENTION,sITEM",
    "sREST,sCOPY,uRRECT,sHIGH,sCENTRE,sLOW,tEFT,sRIGHT,sMEDICINE,sRELIGION,sSTUDY,tUPERVISE",
    "sENTERPRISE,sRESOURCE,sALLIANCE,sNIGHT,iNUMBER THIRTY SIX,xEVEN,wEIGHT,wNINE,pFORTY,u ONE,vTWO",
    "wHREE,vFOUR,wIVE,vSIX,wEVEN,vEIGHT,vNINE,qIFTY,aIDEOGRAPHIC TELEGRAPH SYMBOL FOR JANUARY",
    "ziFEBRUARY,ziMARCH,ziAPRIL,ziMAY,ziJUNE,zkLY,ziAUGUST,ziSEPTEMBER,ziOCTOBER,ziNOVEMBER",
    "ziDECEMBER,aSQUARE HG,hERG,iV,aLIMITED LIABILITY SIGN,aCIRCLED KATAKANA A,rI,rU,rE,rO,rKA,sI",
    "sU,sE,sO,rSA,sI,sU,sE,sO,rTA,sI,sU,sE,sO,rNA,sI,sU,sE,sO,rHA,sI,sU,sE,sO,rMA,sI,sU,sE,sO,rYA",
    "sU,sO,rRA,sI,sU,sE,sO,rWA,sI,sE,sO,aSQUARE ERA NAME REIWA,hAPAATO,iRUHUA,iNPEA,iARU,hININGU",
    "jTI,hUON,hESUKUUDO,iEKAA,hONSU,iOMU,hKAIRI,jRATTO,kORII,hGARON,jNMA,iIGA,jNII,hKYURII,hGIRUDAA",
    "hKIRO,lGURAMU,lMEETORU,lWATTO,hGURAMU,nTON,hKURUZEIRO,kOONE,iEESU,iORUNA,jOPO,hSAIKURU,jNTIIMU",
    "iIRINGU,iENTI,lO,hDAASU,iESI,iORU,hTON,hNANO,iOTTO,hHAITU,hPAASENTO,kTU,hBAARERU,hPIASUTORU",
    "jKURU,kO,hBIRU,hHUARADDO,jIITO,hBUSSYERU,hHURAN,iEKUTAARU,hPESO,jNIHI,hHERUTU,hPENSU,jEZI",
    "hBEETA,hPOINTO,hBORUTO,hHON,hPONDO,hHOORU,kN,hMAIKURO,kRU,jHHA,jRUKU,jNSYON,iIKURON,jRI,lBAARU",
    "iEGA,lTON,jETORU,hYAADO,kRU,iUAN,hRITTORU,jRA,iUPII,jUBURU,iEMU,jNTOGEN,hWATTO",
    "aIDEOGRAPHIC TELEGRAPH SYMBOL FOR HOUR ZERO,znONE,znTWO,zoHREE,znFOUR,zoIVE,znSIX,zoEVEN",
    "znEIGHT,znNINE,znTEN,znELEVEN,znTWELVE,zoHIRTEEN,znFOURTEEN,zoIFTEEN,znSIXTEEN,zoEVENTEEN",
    "znEIGHTEEN,znNINETEEN,znTWENTY,zt-ONE,zuTWO,zvHREE,zuFOUR,aSQUARE HPA,hDA,hAU,hBAR,hOV,hPC,hDM",
    "j SQUARED,kCUBED,hIU,hERA NAME HEISEI,qSYOUWA,qTAISYOU,qMEIZI,hCORPORATION,hPA AMPS,hNA,hMU A",
    "iA,hKA,iB,hMB,hGB,hCAL,hKCAL,hPF,hNF,hMU F,kG,iG,hKG,hHZ,hKHZ,hMHZ,hGHZ,hTHZ,hMU L,iL,hDL,hKL",
    "hFM,hNM,hMU M,iM,hCM,hKM,hMM SQUARED,hCM SQUARED,hM SQUARED,hKM SQUARED,hMM CUBED,hCM CUBED",
    "hM CUBED,hKM CUBED,hM OVER S,p SQUARED,hPA,hKPA,hMPA,hGPA,hRAD,k OVER S,r SQUARED,hPS,hNS",
    "hMU S,iS,hPV,hNV,hMU V,iV,hKV,hMV MEGA,hPW,hNW,hMU W,iW,hKW,hMW MEGA,hK OHM,hM OHM,hAM,hBQ,hCC",
    "iD,i OVER KG,iO,hDB,hGY,hHA,iP,hIN,hKK,iM CAPITAL,iT,hLM,iN,iOG,iX,hMB SMALL,iIL,iOL,hPH,iM",
    "iPM,iR,hSR,iV,hWB,hV OVER M,hA OVER M,aIDEOGRAPHIC TELEGRAPH SYMBOL FOR DAY ONE,zmTWO,znHREE",
    "zmFOUR,znIVE,zmSIX,znEVEN,zmEIGHT,zmNINE,zmTEN,zmELEVEN,zmTWELVE,znHIRTEEN,zmFOURTEEN,znIFTEEN",
    "zmSIXTEEN,znEVENTEEN,zmEIGHTEEN,zmNINETEEN,zmTWENTY,zs-ONE,ztTWO,zuHREE,ztFOUR,zuIVE,ztSIX",
    "zuEVEN,ztEIGHT,ztNINE,znHIRTY,zs-ONE,aSQUARE GAL,=4DC0aHEXAGRAM FOR THE CREATIVE HEAVEN",
    "rRECEPTIVE EARTH,nDIFFICULTY AT THE BEGINNING,nYOUTHFUL FOLLY,nWAITING,nCONFLICT,nTHE ARMY",
    "nHOLDING TOGETHER,nSMALL TAMING,nTREADING,nPEACE,nSTANDSTILL,nFELLOWSHIP,nGREAT POSSESSION",
    "nMODESTY,nENTHUSIASM,nFOLLOWING,nWORK ON THE DECAYED,nAPPROACH,nCONTEMPLATION,nBITING THROUGH",
    "nGRACE,nSPLITTING APART,nRETURN,nINNOCENCE,nGREAT TAMING,nMOUTH CORNERS,nGREAT PREPONDERANCE",
    "nTHE ABYSMAL WATER,rCLINGING FIRE,nINFLUENCE,nDURATION,nRETREAT,nGREAT POWER,nPROGRESS",
    "nDARKENING OF THE LIGHT,nTHE FAMILY,nOPPOSITION,oBSTRUCTION,nDELIVERANCE,pCREASE,nINCREASE",
    "nBREAKTHROUGH,nCOMING TO MEET,nGATHERING TOGETHER,nPUSHING UPWARD,nOPPRESSION,nTHE WELL",
    "nREVOLUTION,nTHE CAULDRON,rAROUSING THUNDER,rKEEPING STILL MOUNTAIN,nDEVELOPMENT",
    "nTHE MARRYING MAIDEN,nABUNDANCE,nTHE WANDERER,rGENTLE WIND,rJOYOUS LAKE,nDISPERSION",
    "nLIMITATION,nINNER TRUTH,nSMALL PREPONDERANCE,nAFTER COMPLETION,nBEFORE COMPLETION",
    "=A000aYI SYLLABLE IT,nX,mI,nP,nET,oX,nE,oP,mAT,nX,mA,nP,mUOX,nO,oP,mOT,nX,mO,nP,mEX,mE,mWU",
    "mBIT,oX,nI,oP,oET,pX,oE,pP,nAT,oX,nA,oP,nUOX,oO,pP,nOT,oX,nO,oP,nEX,nE,oP,nUT,oX,nU,oP,oRX,oR",
    "nYT,oX,nY,oP,oRX,oR,mPIT,oX,nI,oP,oEX,oE,pP,nAT,oX,nA,oP,nUOX,oO,pP,nOT,oX,nO,oP,nUT,oX,nU,oP",
    "oRX,oR,nYT,oX,nY,oP,oRX,oR,mBBIT,pX,oI,pP,pET,qX,pE,qP,oAT,pX,oA,pP,oUOX,pO,qP,oOT,pX,oO,pP",
    "oEX,oE,pP,oUT,pX,oU,pP,pRX,pR,oYT,pX,oY,pP,mNBIT,pX,oI,pP,pEX,pE,qP,oAT,pX,oA,pP,oOT,pX,oO,pP",
    "oUT,pX,oU,pP,pRX,pR,oYT,pX,oY,pP,pRX,pR,mHMIT,pX,oI,pP,pEX,pE,qP,oAT,pX,oA,pP,oUOX,pO,qP,oOT",
    "pX,oO,pP,oUT,pX,oU,pP,pRX,pR,oYX,oY,pP,pRX,pR,mMIT,oX,nI,oP,oEX,oE,pP,nAT,oX,nA,oP,nUOT,pX,oO",
    "pP,nOT,oX,nO,oP,nEX,nE,nUT,oX,nU,oP,oRX,oR,nYT,oX,nY,oP,mFIT,oX,nI,oP,nAT,oX,nA,oP,nOX,nO,oP",
    "nUT,oX,nU,oP,oRX,oR,nYT,oX,nY,oP,mVIT,oX,nI,oP,oET,pX,oE,pP,nAT,oX,nA,oP,nOT,oX,nO,oP,nEX,oP",
    "nUT,oX,nU,oP,oRX,oR,nYT,oX,nY,oP,oRX,oR,mDIT,oX,nI,oP,oEX,oE,pP,nAT,oX,nA,oP,nUOX,oO,nOT,oX,nO",
    "oP,nEX,nE,oP,nUT,oX,nU,oP,oRX,oR,mTIT,oX,nI,oP,oEX,oE,pP,nAT,oX,nA,oP,nUOT,pX,oO,pP,nOT,oX,nO",
    "oP,nEX,nE,oP,nUT,oX,nU,oP,oRX,oR,mDDIT,pX,oI,pP,pEX,pE,qP,oAT,pX,oA,pP,oUOX,pO,qP,oOT,pX,oO,pP",
    "oEX,oE,pP,oUT,pX,oU,pP,pRX,pR,mNDIT,pX,oI,pP,pEX,pE,oAT,pX,oA,pP,oOT,pX,oO,pP,oEX,oE,pP,oUT,pX",
    "oU,pP,pRX,pR,mHNIT,pX,oI,pP,pET,qX,pE,qP,oAT,pX,oA,pP,oUOX,pO,oOT,pX,pP,oEX,oE,pP,oUT,mNIT,oX",
    "nI,oP,oEX,oE,pP,nAX,nA,oP,nUOX,oO,pP,nOT,oX,nO,oP,nEX,nE,oP,nUT,oX,nU,oP,oRX,oR,mHLIT,pX,oI,pP",
    "pEX,pE,qP,oAT,pX,oA,pP,oUOX,pO,qP,oOX,oO,pP,oEX,oE,pP,oUT,pX,oU,pP,pRX,pR,oYT,pX,oY,pP,pRX,pR",
    "mLIT,oX,nI,oP,oET,pX,oE,pP,nAT,oX,nA,oP,nUOT,pX,oO,pP,nOT,oX,nO,oP,nEX,nE,oP,nUT,oX,nU,oP,oRX",
    "oR,nYT,oX,nY,oP,oRX,oR,mGIT,oX,nI,oP,oET,pX,oE,pP,nAT,oX,nA,oP,nUOT,pX,oO,pP,nOT,oX,nO,oP,nET",
    "oX,nE,oP,nUT,oX,nU,oP,oRX,oR,mKIT,oX,nI,oP,oEX,oE,pP,nAT,oX,nA,oP,nUOX,oO,pP,nOT,oX,nO,oP,nET",
    "oX,nE,oP,nUT,oX,nU,oP,oRX,oR,mGGIT,pX,oI,pEX,pE,qP,oAT,pX,oA,pP,oUOT,qX,pO,qP,oOT,pX,oO,pP,oET",
    "pX,oE,pP,oUT,pX,oU,pP,pRX,pR,mMGIEX,pE,oAT,pX,oA,pP,oUOX,pO,qP,oOT,pX,oO,pP,oEX,oE,pP,oUT,pX",
    "oU,pP,pRX,pR,mHXIT,pX,oI,pP,pET,qX,pE,qP,oAT,pX,oA,pP,oUOT,qX,pO,qP,oOT,pX,oO,pP,oEX,oE,pP",
    "mNGIEX,pE,qP,oAT,pX,oA,pP,oUOT,qX,pO,oOT,pX,oO,pP,oEX,oE,pP,mHIT,oEX,oE,nAT,oX,nA,oP,nUOT,pX",
    "oO,pP,nOT,oX,nO,oP,nEX,nE,oP,mWAT,oX,nA,oP,nUOX,oO,pP,nOX,nO,oP,nEX,nE,oP,mZIT,oX,nI,oP,oEX,oE",
    "pP,nAT,oX,nA,oP,nUOX,oO,pP,nOT,oX,nO,oP,nEX,nE,oP,nUT,oX,nU,oP,oRX,oR,nYT,oX,nY,oP,oRX,oR,mCIT",
    "oX,nI,oP,oET,pX,oE,pP,nAT,oX,nA,oP,nUOX,oO,pP,nOT,oX,nO,oP,nEX,nE,oP,nUT,oX,nU,oP,oRX,oR,nYT",
    "oX,nY,oP,oRX,oR,mZZIT,pX,oI,pP,pET,qX,pE,qP,oAT,pX,oA,pP,oOX,oO,pP,oEX,oE,pP,oUX,oU,pP,pRX,pR",
    "oYT,pX,oY,pP,pRX,pR,mNZIT,pX,oI,pP,pEX,pE,qP,oAT,pX,oA,pP,oUOX,pO,oOX,pP,oEX,oE,oUX,oU,pP,pRX",
    "pR,oYT,pX,oY,pP,pRX,pR,mSIT,oX,nI,oP,oEX,oE,pP,nAT,oX,nA,oP,nUOX,oO,pP,nOT,oX,nO,oP,nEX,nE,oP",
    "nUT,oX,nU,oP,oRX,oR,nYT,oX,nY,oP,oRX,oR,nSIT,pX,oI,pP,pEX,pE,qP,oAT,pX,oA,pP,oOT,pX,oO,pP,oEX",
    "oE,pP,oUT,pX,oU,pP,oYT,pX,oY,pP,pRX,pR,mZHAT,pX,oA,pP,oUOX,pO,qP,oOT,pX,oO,pP,oET,pX,oE,pP,oUT",
    "pX,oU,pP,pRX,pR,oYT,pX,oY,pP,pRX,pR,mCHAT,pX,oA,pP,oUOT,qX,pO,qP,oOT,pX,oO,pP,oET,pX,oE,pP,oUX",
    "oU,pP,pRX,pR,oYT,pX,oY,pP,pRX,pR,mRRAX,oA,oUOX,pO,oOT,pX,oO,pP,oET,pX,oE,pP,oUT,pX,oU,pP,pRX",
    "pR,oYT,pX,oY,pP,pRX,pR,mNRAT,pX,oA,pP,oOX,oO,pP,oET,pX,oE,pP,oUT,pX,oU,pP,pRX,pR,oYT,pX,oY,pP",
    "pRX,pR,mSHAT,pX,oA,pP,oUOX,pO,qP,oOT,pX,oO,pP,oET,pX,oE,pP,oUT,pX,oU,pP,pRX,pR,oYT,pX,oY,pP",
    "pRX,pR,mRAT,oX,nA,oP,nUOX,oO,pP,nOT,oX,nO,oP,nEX,nE,oP,nUT,oX,nU,oP,oRX,oR,nYT,oX,nY,oP,oRX,oR",
    "mJIT,oX,nI,oP,oET,pX,oE,pP,nUOT,pX,oO,pP,nOT,oX,nO,oP,nUT,oX,nU,oP,oRX,oR,nYT,oX,nY,oP,oRX,oR",
    "mQIT,oX,nI,oP,oET,pX,oE,pP,nUOT,pX,oO,pP,nOT,oX,nO,oP,nUT,oX,nU,oP,oRX,oR,nYT,oX,nY,oP,oRX,oR",
    "mJJIT,pX,oI,pP,pET,qX,pE,qP,oUOX,pO,qP,oOT,pX,oO,pP,oUT,pX,oU,pP,pRX,pR,oYT,pX,oY,pP,mNJIT,pX",
    "oI,pP,pET,qX,pE,qP,oUOX,pO,oOT,pX,oO,pP,oUX,oU,pP,pRX,pR,oYT,pX,oY,pP,pRX,pR,nYIT,pX,oI,pP,pET",
    "qX,pE,qP,oUOX,pO,qP,oOT,pX,oO,pP,oUT,pX,oU,pP,mXIT,oX,nI,oP,oET,pX,oE,pP,nUOX,oO,nOT,oX,nO,oP",
    "nYT,oX,nY,oP,oRX,oR,mYIT,oX,nI,oP,oET,pX,oE,pP,nUOT,pX,oO,pP,nOT,oX,nO,oP,nUT,oX,nU,oP,oRX,oR",
    "nYT,oX,nY,oP,oRX,oR,=A490dRADICAL QOT,lLI,lKIT,lNYIP,lCYP,lSSI,lGGOP,mEP,lMI,lHXIT,lLYR,lBBUT",
    "lMOP,lYO,lPUT,lHXUO,lTAT,lGA,lZUP,lCYT,lDDUR,lBUR,lGGUO,lNYOP,lTU,lOP,lJJUT,lZOT,lPYT,lHMO",
    "lYIT,lVUR,lSHY,lVEP,lZA,lJO,lNZUP,lJJY,lGOT,lJJIE,lWO,lDU,lSHUR,lLIE,lCY,mUOP,mIP,lHXOP,lSHAT",
    "lZUR,lSHOP,lCHE,lZZIET,lNBIE,lKE,=A4D0aLISU LETTER BA,mPA,nHA,mDA,mTA,nHA,mGA,mKA,nHA,mJA,mCA",
    "nHA,mDZA,mTSA,oHA,mMA,mNA,mLA,mSA,mZHA,nA,mNGA,mHA,mXA,mHHA,mFA,mWA,mSHA,mYA,mGHA,mA,nE,mE,nU",
    "mI,mO,mU,nE,nH,mOE,mTONE MYA TI,rNA PO,rMYA CYA,vBO,vNA,vJEU,fPUNCTUATION COMMA,rFULL STOP",
    "aVAI SYLLABLE EE,pN,nHEE,nWEE,qN,nPEE,nBHEE,oEE,nMBEE,nKPEE,nMGBEE,nGBEE,nFEE,nVEE,nTEE,oHEE",
    "nDHEE,pHEE,nLEE,nREE,nDEE,nNDEE,nSEE,oHEE,nZEE,oHEE,nCEE,nJEE,nNJEE,nYEE,nKEE,nNGGEE,nGEE,nMEE",
    "nNEE,oYEE,nI,oN,nHI,pN,nWI,pN,nPI,nBHI,oI,nMBI,nKPI,nMGBI,nGBI,nFI,nVI,nTI,oHI,nDHI,pHI,nLI",
    "nRI,nDI,nNDI,nSI,oHI,nZI,oHI,nCI,nJI,nNJI,nYI,nKI,nNGGI,nGI,nMI,nNI,oYI,nA,oN,nNGAN,nHA,pN,nWA",
    "pN,nPA,nBHA,oA,nMBA,nKPA,qN,nMGBA,nGBA,nFA,nVA,nTA,oHA,nDHA,pHA,nLA,nRA,nDA,nNDA,nSA,oHA,nZA",
    "oHA,nCA,nJA,nNJA,nYA,nKA,pN,nNGGA,nGA,nMA,nNA,oYA,nOO,pN,nHOO,nWOO,qN,nPOO,nBHOO,oOO,nMBOO",
    "nKPOO,nMGBOO,nGBOO,nFOO,nVOO,nTOO,oHOO,nDHOO,pHOO,nLOO,nROO,nDOO,nNDOO,nSOO,oHOO,nZOO,oHOO",
    "nCOO,nJOO,nNJOO,nYOO,nKOO,nNGGOO,nGOO,nMOO,nNOO,oYOO,nU,oN,nHU,pN,nWU,pN,nPU,nBHU,oU,nMBU,nKPU",
    "nMGBU,nGBU,nFU,nVU,nTU,oHU,nDHU,pHU,nLU,nRU,nDU,nNDU,nSU,oHU,nZU,oHU,nCU,nJU,nNJU,nYU,nKU",
    "nNGGU,nGU,nMU,nNU,oYU,nO,oN,nNGON,nHO,pN,nWO,pN,nPO,nBHO,oO,nMBO,nKPO,nMGBO,nGBO,qN,nFO,nVO",
    "nTO,oHO,nDHO,pHO,nLO,nRO,nDO,nNDO,nSO,oHO,nZO,oHO,nCO,nJO,nNJO,nYO,nKO,nNGGO,nGO,nMO,nNO,oYO",
    "nE,oN,nNGEN,nHE,pN,nWE,pN,nPE,nBHE,oE,nMBE,nKPE,qN,nMGBE,nGBE,qN,nFE,nVE,nTE,oHE,nDHE,pHE,nLE",
    "nRE,nDE,nNDE,nSE,oHE,nZE,oHE,nCE,nJE,nNJE,nYE,nKE,nNGGE,rN,nGE,pN,nME,nNE,oYE,oG,nLENGTHENER",
    "eCOMMA,eFULL STOP,eQUESTION MARK,eSYLLABLE NDOLE FA,tKA,tSOO,gMBOL FEENG,lKEENG,lTING,lNII",
    "lBANG,lFAA,lTAA,lDANG,mOONG,lKUNG,lTONG,lDO-O,lJONG,eDIGIT ZERO,kONE,kTWO,lHREE,kFOUR,lIVE",
    "kSIX,lEVEN,kEIGHT,kNINE,eSYLLABLE NDOLE MA,tDO,=A640aCYRILLIC CAPITAL LETTER ZEMLYA",
    "jSMALL LETTER ZEMLYA,jCAPITAL LETTER DZELO,jSMALL LETTER DZELO,jCAPITAL LETTER REVERSED DZE",
    "jSMALL LETTER REVERSED DZE,jCAPITAL LETTER IOTA,jSMALL LETTER IOTA,jCAPITAL LETTER DJERV",
    "jSMALL LETTER DJERV,jCAPITAL LETTER MONOGRAPH UK,jSMALL LETTER MONOGRAPH UK",
    "jCAPITAL LETTER BROAD OMEGA,jSMALL LETTER BROAD OMEGA,jCAPITAL LETTER NEUTRAL YER",
    "jSMALL LETTER NEUTRAL YER,jCAPITAL LETTER YERU WITH BACK YER,jSMALL LETTER YERU WITH BACK YER",
    "jCAPITAL LETTER IOTIFIED YAT,jSMALL LETTER IOTIFIED YAT,jCAPITAL LETTER REVERSED YU",
    "jSMALL LETTER REVERSED YU,jCAPITAL LETTER IOTIFIED A,jSMALL LETTER IOTIFIED A",
    "jCAPITAL LETTER CLOSED LITTLE YUS,jSMALL LETTER CLOSED LITTLE YUS,jCAPITAL LETTER BLENDED YUS",
    "jSMALL LETTER BLENDED YUS,jCAPITAL LETTER IOTIFIED CLOSED LITTLE YUS",
    "jSMALL LETTER IOTIFIED CLOSED LITTLE YUS,jCAPITAL LETTER YN,jSMALL LETTER YN",
    "jCAPITAL LETTER REVERSED TSE,jSMALL LETTER REVERSED TSE,jCAPITAL LETTER SOFT DE",
    "jSMALL LETTER SOFT DE,jCAPITAL LETTER SOFT EL,jSMALL LETTER SOFT EL,jCAPITAL LETTER SOFT EM",
    "jSMALL LETTER SOFT EM,jCAPITAL LETTER MONOCULAR O,jSMALL LETTER MONOCULAR O",
    "jCAPITAL LETTER BINOCULAR O,jSMALL LETTER BINOCULAR O,jCAPITAL LETTER DOUBLE MONOCULAR O",
    "jSMALL LETTER DOUBLE MONOCULAR O,jLETTER MULTIOCULAR O,bOMBINING CYRILLIC VZMET",
    "tTEN MILLIONS SIGN,tHUNDRED MILLIONS SIGN,tTHOUSAND MILLIONS SIGN,aSLAVONIC ASTERISK",
    "aCOMBINING CYRILLIC LETTER UKRAINIAN IE,zbI,zbYI,zbU,zbHARD SIGN,zbYERU,zbSOFT SIGN,zbOMEGA",
    "tKAVYKA,tPAYEROK,bYRILLIC KAVYKA,jPAYEROK,jCAPITAL LETTER DWE,jSMALL LETTER DWE",
    "jCAPITAL LETTER DZWE,jSMALL LETTER DZWE,jCAPITAL LETTER ZHWE,jSMALL LETTER ZHWE",
    "jCAPITAL LETTER CCHE,jSMALL LETTER CCHE,jCAPITAL LETTER DZZE,jSMALL LETTER DZZE",
    "jCAPITAL LETTER TE WITH MIDDLE HOOK,jSMALL LETTER TE WITH MIDDLE HOOK,jCAPITAL LETTER TWE",
    "jSMALL LETTER TWE,jCAPITAL LETTER TSWE,jSMALL LETTER TSWE,jCAPITAL LETTER TSSE",
    "jSMALL LETTER TSSE,jCAPITAL LETTER TCHE,jSMALL LETTER TCHE,jCAPITAL LETTER HWE",
    "jSMALL LETTER HWE,jCAPITAL LETTER SHWE,jSMALL LETTER SHWE,jCAPITAL LETTER DOUBLE O",
    "jSMALL LETTER DOUBLE O,jCAPITAL LETTER CROSSED O,jSMALL LETTER CROSSED O",
    "aMODIFIER LETTER CYRILLIC HARD SIGN,zSOFT SIGN,aCOMBINING CYRILLIC LETTER EF,zbIOTIFIED E",
    "aBAMUM LETTER A,nKA,nU,nKU,nEE,nREE,nTAE,nO,nNYI,nI,nLA,nPA,nRII,pEE,nLEEEE,nMEEEE,nTAA,nNDAA",
    "oJAEM,nM,nSUU,nMU,nSHII,oI,oHEUX,oEUX,nKYEE,oET,nNUAE,oU,oJUAE,nYOQ,nSHU,nYUQ,oA,nNSHA,nKEUX",
    "nPEUX,nNJEE,oTEE,nPUE,nWUE,nPEE,nFEE,nRU,nLU,nMI,nNI,nREUX,oAE,nKEN,nNGKWAEN,pGA,pA,nSHO,nPUAE",
    "nFU,oOM,nWA,nNA,nLI,nPI,nLOQ,nKO,nMBEN,nREN,nMEN,oA,nTI,nKI,nMO,oBAA,nTET,nKPA,nTEN,nNTUU",
    "nSAMBA,nFAAMAE,nKOVUU,pGHOM,gCOMBINING MARK KOQNDON,vTUKWENTIS,gNJAEMLI,gFULL STOP,gCOLON,iMMA",
    "gSEMICOLON,gQUESTION MARK,=A700aMODIFIER LETTER CHINESE TONE YIN PING,zfANG PING,zfIN SHANG",
    "zfANG SHANG,zfIN QU,zfANG QU,zfIN RU,zfANG RU,qEXTRA-HIGH DOTTED TONE BAR",
    "qHIGH DOTTED TONE BAR,qMID DOTTED TONE BAR,qLOW DOTTED TONE BAR,qEXTRA-LOW DOTTED TONE BAR",
    "wHIGH DOTTED LEFT-STEM TONE BAR,qHIGH DOTTED LEFT-STEM TONE BAR,qMID DOTTED LEFT-STEM TONE BAR",
    "qLOW DOTTED LEFT-STEM TONE BAR,qEXTRA-LOW DOTTED LEFT-STEM TONE BAR,wHIGH LEFT-STEM TONE BAR",
    "qHIGH LEFT-STEM TONE BAR,qMID LEFT-STEM TONE BAR,qLOW LEFT-STEM TONE BAR",
    "qEXTRA-LOW LEFT-STEM TONE BAR,qDOT VERTICAL BAR,uSLASH,uHORIZONTAL BAR",
    "qLOWER RIGHT CORNER ANGLE,qRAISED UP ARROW,xDOWN ARROW,xEXCLAMATION MARK",
    "xINVERTED EXCLAMATION MARK,qLOW INVERTED EXCLAMATION MARK,qSTRESS AND HIGH TONE,zcLOW TONE",
    "aLATIN CAPITAL LETTER EGYPTOLOGICAL ALEF,gSMALL LETTER EGYPTOLOGICAL ALEF",
    "gCAPITAL LETTER EGYPTOLOGICAL AIN,gSMALL LETTER EGYPTOLOGICAL AIN,gCAPITAL LETTER HENG",
    "gSMALL LETTER HENG,gCAPITAL LETTER TZ,gSMALL LETTER TZ,gCAPITAL LETTER TRESILLO",
    "gSMALL LETTER TRESILLO,gCAPITAL LETTER CUATRILLO,gSMALL LETTER CUATRILLO",
    "gCAPITAL LETTER CUATRILLO WITH COMMA,gSMALL LETTER CUATRILLO WITH COMMA",
    "gLETTER SMALL CAPITAL F,zcS,gCAPITAL LETTER AA,gSMALL LETTER AA,gCAPITAL LETTER AO",
    "gSMALL LETTER AO,gCAPITAL LETTER AU,gSMALL LETTER AU,gCAPITAL LETTER AV,gSMALL LETTER AV",
    "gCAPITAL LETTER AV WITH HORIZONTAL BAR,gSMALL LETTER AV WITH HORIZONTAL BAR,gCAPITAL LETTER AY",
    "gSMALL LETTER AY,gCAPITAL LETTER REVERSED C WITH DOT,gSMALL LETTER REVERSED C WITH DOT",
    "gCAPITAL LETTER K WITH STROKE,gSMALL LETTER K WITH STROKE",
    "gCAPITAL LETTER K WITH DIAGONAL STROKE,gSMALL LETTER K WITH DIAGONAL STROKE",
    "gCAPITAL LETTER K WITH STROKE AND DIAGONAL STROKE",
    "gSMALL LETTER K WITH STROKE AND DIAGONAL STROKE,gCAPITAL LETTER BROKEN L",
    "gSMALL LETTER BROKEN L,gCAPITAL LETTER L WITH HIGH STROKE,gSMALL LETTER L WITH HIGH STROKE",
    "gCAPITAL LETTER O WITH LONG STROKE OVERLAY,gSMALL LETTER O WITH LONG STROKE OVERLAY",
    "gCAPITAL LETTER O WITH LOOP,gSMALL LETTER O WITH LOOP,gCAPITAL LETTER OO,gSMALL LETTER OO",
    "gCAPITAL LETTER P WITH STROKE THROUGH DESCENDER,gSMALL LETTER P WITH STROKE THROUGH DESCENDER",
    "gCAPITAL LETTER P WITH FLOURISH,gSMALL LETTER P WITH FLOURISH",
    "gCAPITAL LETTER P WITH SQUIRREL TAIL,gSMALL LETTER P WITH SQUIRREL TAIL",
    "gCAPITAL LETTER Q WITH STROKE THROUGH DESCENDER,gSMALL LETTER Q WITH STROKE THROUGH DESCENDER",
    "gCAPITAL LETTER Q WITH DIAGONAL STROKE,gSMALL LETTER Q WITH DIAGONAL STROKE",
    "gCAPITAL LETTER R ROTUNDA,gSMALL LETTER R ROTUNDA,gCAPITAL LETTER RUM ROTUNDA",
    "gSMALL LETTER RUM ROTUNDA,gCAPITAL LETTER V WITH DIAGONAL STROKE",
    "gSMALL LETTER V WITH DIAGONAL STROKE,gCAPITAL LETTER VY,gSMALL LETTER VY",
    "gCAPITAL LETTER VISIGOTHIC Z,gSMALL LETTER VISIGOTHIC Z,gCAPITAL LETTER THORN WITH STROKE",
    "gSMALL LETTER THORN WITH STROKE,gCAPITAL LETTER THORN WITH STROKE THROUGH DESCENDER",
    "gSMALL LETTER THORN WITH STROKE THROUGH DESCENDER,gCAPITAL LETTER VEND,gSMALL LETTER VEND",
    "gCAPITAL LETTER ET,gSMALL LETTER ET,gCAPITAL LETTER IS,gSMALL LETTER IS,gCAPITAL LETTER CON",
    "gSMALL LETTER CON,aMODIFIER LETTER US,aLATIN SMALL LETTER DUM,tLUM,tMUM,tNUM,tRUM",
    "gLETTER SMALL CAPITAL RUM,gSMALL LETTER TUM,tUM,gCAPITAL LETTER INSULAR D",
    "gSMALL LETTER INSULAR D,gCAPITAL LETTER INSULAR F,gSMALL LETTER INSULAR F",
    "gCAPITAL LETTER INSULAR G,vTURNED INSULAR G,gSMALL LETTER TURNED INSULAR G",
    "gCAPITAL LETTER TURNED L,gSMALL LETTER TURNED L,gCAPITAL LETTER INSULAR R",
    "gSMALL LETTER INSULAR R,gCAPITAL LETTER INSULAR S,gSMALL LETTER INSULAR S",
    "gCAPITAL LETTER INSULAR T,gSMALL LETTER INSULAR T,aMODIFIER LETTER LOW CIRCUMFLEX ACCENT",
    "qCOLON,qSHORT EQUALS SIGN,aLATIN CAPITAL LETTER SALTILLO,gSMALL LETTER SALTILLO",
    "gCAPITAL LETTER TURNED H,gSMALL LETTER L WITH RETROFLEX HOOK AND BELT,gLETTER SINOLOGICAL DOT",
    "gCAPITAL LETTER N WITH DESCENDER,gSMALL LETTER N WITH DESCENDER,gCAPITAL LETTER C WITH BAR",
    "gSMALL LETTER C WITH BAR,zbPALATAL HOOK,tH WITH PALATAL HOOK,gCAPITAL LETTER B WITH FLOURISH",
    "gSMALL LETTER B WITH FLOURISH,gCAPITAL LETTER F WITH STROKE,gSMALL LETTER F WITH STROKE",
    "gCAPITAL LETTER VOLAPUK AE,gSMALL LETTER VOLAPUK AE,gCAPITAL LETTER VOLAPUK OE",
    "gSMALL LETTER VOLAPUK OE,gCAPITAL LETTER VOLAPUK UE,gSMALL LETTER VOLAPUK UE",
    "gCAPITAL LETTER G WITH OBLIQUE STROKE,gSMALL LETTER G WITH OBLIQUE STROKE",
    "gCAPITAL LETTER K WITH OBLIQUE STROKE,gSMALL LETTER K WITH OBLIQUE STROKE",
    "gCAPITAL LETTER N WITH OBLIQUE STROKE,gSMALL LETTER N WITH OBLIQUE STROKE",
    "gCAPITAL LETTER R WITH OBLIQUE STROKE,gSMALL LETTER R WITH OBLIQUE STROKE",
    "gCAPITAL LETTER S WITH OBLIQUE STROKE,gSMALL LETTER S WITH OBLIQUE STROKE",
    "gCAPITAL LETTER H WITH HOOK,vREVERSED OPEN E,vSCRIPT G,vL WITH BELT,vSMALL CAPITAL I",
    "gLETTER SMALL CAPITAL Q,gCAPITAL LETTER TURNED K,zdT,vJ WITH CROSSED-TAIL,vCHI,vBETA",
    "gSMALL LETTER BETA,gCAPITAL LETTER OMEGA,gSMALL LETTER OMEGA,gCAPITAL LETTER U WITH STROKE",
    "gSMALL LETTER U WITH STROKE,gCAPITAL LETTER GLOTTAL A,gSMALL LETTER GLOTTAL A",
    "gCAPITAL LETTER GLOTTAL I,gSMALL LETTER GLOTTAL I,gCAPITAL LETTER GLOTTAL U",
    "gSMALL LETTER GLOTTAL U,gCAPITAL LETTER OLD POLISH O,gSMALL LETTER OLD POLISH O",
    "gCAPITAL LETTER ANGLICANA W,gSMALL LETTER ANGLICANA W,gCAPITAL LETTER C WITH PALATAL HOOK",
    "vS WITH HOOK,vZ WITH PALATAL HOOK,vD WITH SHORT STROKE OVERLAY",
    "gSMALL LETTER D WITH SHORT STROKE OVERLAY,gCAPITAL LETTER S WITH SHORT STROKE OVERLAY",
    "gSMALL LETTER S WITH SHORT STROKE OVERLAY,=A7D0gCAPITAL LETTER CLOSED INSULAR G",
    "gSMALL LETTER CLOSED INSULAR G,=A7D3tDOUBLE THORN,=A7D5zbWYNN,gCAPITAL LETTER MIDDLE SCOTS S",
    "gSMALL LETTER MIDDLE SCOTS S,gCAPITAL LETTER SIGMOID S,gSMALL LETTER SIGMOID S",
    "=A7F2aMODIFIER LETTER CAPITAL C,yF,yQ,aLATIN CAPITAL LETTER REVERSED HALF H",
    "gSMALL LETTER REVERSED HALF H,gEPIGRAPHIC LETTER SIDEWAYS I",
    "aMODIFIER LETTER CAPITAL H WITH STROKE,qSMALL LIGATURE OE,aLATIN LETTER SMALL CAPITAL TURNED M",
    "gEPIGRAPHIC LETTER REVERSED F,ziP,yINVERTED M,z LONGA,yARCHAIC M,aSYLOTI NAGRI LETTER A,uI",
    "nSIGN DVISVARA,nLETTER U,uE,uO,nSIGN HASANTA,nLETTER KO,vHO,uGO,vHO,nSIGN ANUSVARA,nLETTER CO",
    "vHO,uJO,vHO,uTTO,wHO,uDDO,wHO,uTO,vHO,uDO,vHO,uNO,uPO,vHO,uBO,vHO,uMO,uRO,uLO,uRRO,uSO,uHO",
    "nVOWEL SIGN A,yI,yU,yE,yOO,nPOETRY MARK-1,z2,z3,z4,nSIGN ALTERNATE HASANTA",
    "=A830aNORTH INDIC FRACTION ONE QUARTER,zHALF,vTHREE QUARTERS,vONE SIXTEENTH,zEIGHTH",
    "vTHREE SIXTEENTHS,mQUARTER MARK,mPLACEHOLDER MARK,mRUPEE MARK,mQUANTITY MARK",
    "=A840aPHAGS-PA LETTER KA,rHA,qGA,qNGA,qCA,rHA,qJA,qNYA,qTA,rHA,qDA,qNA,qPA,rHA,qBA,qMA,qTSA",
    "sHA,qDZA,qWA,qZHA,rA,qSMALL A,qYA,qRA,qLA,qSHA,rA,qHA,qA,qI,qU,qE,qO,qQA,qXA,qFA,qGGA,qEE",
    "jSUBJOINED LETTER WA,zbYA,jLETTER TTA,sHA,qDDA,qNNA,qALTERNATE YA,qVOICELESS SHA,vD HA",
    "qASPIRATED FA,jSUBJOINED LETTER RA,lPERFIXED LETTER RA,jLETTER CANDRABINDU,jSINGLE HEAD MARK",
    "jDOUBLE HEAD MARK,jMARK SHAD,oDOUBLE SHAD,=A880aSAURASHTRA SIGN ANUSVARA,qVISARGA,lLETTER A,tA",
    "sI,tI,sU,tU,sVOCALIC R,zcR,zbL,zcL,sE,tE,sAI,sO,tO,sAU,sKA,tHA,sGA,tHA,sNGA,sCA,tHA,sJA,tHA",
    "sNYA,sTTA,uHA,sDDA,uHA,sNNA,sTA,tHA,sDA,tHA,sNA,sPA,tHA,sBA,tHA,sMA,sYA,sRA,sLA,sVA,sSHA,tSA",
    "tA,sHA,sLLA,lCONSONANT SIGN HAARU,lVOWEL SIGN AA,wI,xI,wU,xU,wVOCALIC R,zgR,zfL,zgL,wE,xE,wAI",
    "wO,xO,wAU,lSIGN VIRAMA,qCANDRABINDU,=A8CElDANDA,mOUBLE DANDA,mIGIT ZERO,rONE,rTWO,sHREE,rFOUR",
    "sIVE,rSIX,sEVEN,rEIGHT,rNINE,=A8E0aCOMBINING DEVANAGARI DIGIT ZERO,zcONE,zcTWO,zdHREE,zcFOUR",
    "zdIVE,zcSIX,zdEVEN,zcEIGHT,zcNINE,vLETTER A,zdU,zdKA,zdNA,zdPA,zdRA,zdVI,vSIGN AVAGRAHA",
    "aDEVANAGARI SIGN SPACING CANDRABINDU,qCANDRABINDU VIRAMA,qDOUBLE CANDRABINDU VIRAMA",
    "qCANDRABINDU TWO,zeHREE,zdAVAGRAHA,qPUSHPIKA,lGAP FILLER,lCARET,lHEADSTROKE,lSIGN SIDDHAM",
    "lJAIN OM,lLETTER AY,lVOWEL SIGN AY,aKAYAH LI DIGIT ZERO,pONE,pTWO,qHREE,pFOUR,qIVE,pSIX,qEVEN",
    "pEIGHT,pNINE,jLETTER KA,rHA,qGA,qNGA,qSA,rHA,qZA,qNYA,qTA,qHTA,qNA,qPA,rHA,qMA,qDA,qBA,qRA,qYA",
    "qLA,qWA,qTHA,qHA,qVA,qCA,qA,qOE,qI,qOO,jVOWEL UE,pE,pU,pEE,pO,jTONE PLOPHU,oCALYA,t PLOPHU",
    "jSIGN CWI,oSHYA,aREJANG LETTER KA,oGA,oNGA,oTA,oDA,oNA,oPA,oBA,oMA,oCA,oJA,oNYA,oSA,oRA,oLA",
    "oYA,oWA,oHA,oMBA,oNGGA,pDA,pYJA,oA,hVOWEL SIGN I,sU,sE,sAI,sO,sAU,sEU,tA,hCONSONANT SIGN NG,wN",
    "wR,wH,hVIRAMA,=A95FhSECTION MARK,aHANGUL CHOSEONG TIKEUT-MIEUM,xPIEUP,xSIOS,xCIEUC",
    "qRIEUL-KIYEOK,wSSANGKIYEOK,wTIKEUT,wSSANGTIKEUT,wMIEUM,wPIEUP,wSSANGPIEUP,wKAPYEOUNPIEUP,wSIOS",
    "wCIEUC,wKHIEUKH,qMIEUM-KIYEOK,wTIKEUT,wSIOS,qPIEUP-SIOS-THIEUTH,wKHIEUKH,wHIEUH",
    "qSSANGSIOS-PIEUP,qIEUNG-RIEUL,wHIEUH,qSSANGCIEUC-HIEUH,vTHIEUTH,qPHIEUPH-HIEUH,qHIEUH-SIOS",
    "qSSANGYEORINHIEUH,=A980aJAVANESE SIGN PANYANGGA,oCECAK,oLAYAR,oWIGNYAN,jLETTER A,qI KAWI,qI,rI",
    "qU,qPA CEREK,qNGA LELET,z RASWADI,qE,qAI,qO,qKA,s SASAK,tMURDA,qGA,s MURDA,qNGA,qCA,s MURDA",
    "qJA,qNYA MURDA,qJA MAHAPRANA,qNYA,qTTA,t MAHAPRANA,qDDA,t MAHAPRANA,qNA MURDA,qTA,s MURDA,qDA",
    "s MAHAPRANA,qNA,qPA,s MURDA,qBA,s MURDA,qMA,qYA,qRA,s AGUNG,qLA,qWA,qSA MURDA,uAHAPRANA,rA,qHA",
    "jSIGN CECAK TELU,jVOWEL SIGN TARUNG,vOLONG,uWULU,y MELIK,uSUKU,y MENDUT,uTALING,uDIRGA MURE",
    "uPEPET,jCONSONANT SIGN KERET,yPENGKAL,yCAKRA,jPANGKON,jLEFT RERENGGAN,jRIGHT RERENGGAN",
    "jPADA ANDAP,oMADYA,oLUHUR,oWINDU,oPANGKAT,oLINGSA,pUNGSI,oADEG,s ADEG,oPISELEH",
    "jTURNED PADA PISELEH,=A9CFjPANGRANGKEP,jDIGIT ZERO,pONE,pTWO,qHREE,pFOUR,qIVE,pSIX,qEVEN",
    "pEIGHT,pNINE,=A9DEjPADA TIRTA TUMETES,oISEN-ISEN,aMYANMAR LETTER SHAN GHA,uCHA,uJHA,uNNA,uBHA",
    "iSIGN SHAN SAW,iMODIFIER LETTER SHAN REDUPLICATION,iLETTER TAI LAING NYA,zFA,zGA,zbHA,zJA,zbHA",
    "zDDA,zcHA,zNNA,iTAI LAING DIGIT ZERO,yONE,yTWO,zHREE,yFOUR,zIVE,ySIX,zEVEN,yEIGHT,yNINE",
    "iLETTER TAI LAING LLA,zDA,zbHA,zBA,zbHA,=AA00aCHAM LETTER A,mI,mU,mE,mAI,mO,mKA,nHA,mGA,nHA",
    "mNGUE,oA,mCHA,oHA,mJA,nHA,mNHUE,oA,oJA,mTA,nHA,mDA,nHA,mNUE,nA,mDDA,mPA,nPA,nHA,mBA,nHA,mMUE",
    "nA,mBBA,mYA,mRA,mLA,mVA,mSSA,nA,mHA,fVOWEL SIGN AA,qI,rI,qEI,qU,qOE,qO,qAI,rU,qUE",
    "fCONSONANT SIGN YA,uRA,uLA,uWA,=AA40fLETTER FINAL K,sG,sNG,fCONSONANT SIGN FINAL NG",
    "fLETTER FINAL CH,sT,sN,sP,sY,sR,sL,sSS,fCONSONANT SIGN FINAL M,zbH,=AA50fDIGIT ZERO,lONE,lTWO",
    "mHREE,lFOUR,mIVE,lSIX,mEVEN,lEIGHT,lNINE,=AA5CfPUNCTUATION SPIRAL,rDANDA,sOUBLE DANDA",
    "rTRIPLE DANDA,aMYANMAR LETTER KHAMTI GA,wCA,xHA,wJA,xHA,wNYA,wTTA,yHA,wDDA,yHA,xHA,wNA,wSA,wHA",
    "xHA,wFA,iMODIFIER LETTER KHAMTI REDUPLICATION,iLETTER KHAMTI XA,wZA,wRA,jOGOGRAM KHAMTI OAY",
    "yQN,yHM,iSYMBOL AITON EXCLAMATION,vONE,vTWO,iLETTER AITON RA,iSIGN PAO KAREN TONE",
    "nTAI LAING TONE-2,zd5,iLETTER SHWE PALAUNG CHA,zdSHA,aTAI VIET LETTER LOW KO,qHIGH KO,qLOW KHO",
    "qHIGH KHO,qLOW KHHO,qHIGH KHHO,qLOW GO,qHIGH GO,qLOW NGO,qHIGH NGO,qLOW CO,qHIGH CO,qLOW CHO",
    "qHIGH CHO,qLOW SO,qHIGH SO,qLOW NYO,qHIGH NYO,qLOW DO,qHIGH DO,qLOW TO,qHIGH TO,qLOW THO",
    "qHIGH THO,qLOW NO,qHIGH NO,qLOW BO,qHIGH BO,qLOW PO,qHIGH PO,qLOW PHO,qHIGH PHO,qLOW FO",
    "qHIGH FO,qLOW MO,qHIGH MO,qLOW YO,qHIGH YO,qLOW RO,qHIGH RO,qLOW LO,qHIGH LO,qLOW VO,qHIGH VO",
    "qLOW HO,qHIGH HO,qLOW O,qHIGH O,jMAI KANG,jVOWEL AA,pI,pUE,pU,pE,pO,jMAI KHIT,jVOWEL IA,pUEA",
    "qA,pAUE,qY,qN,qM,jTONE MAI EK,sNUENG,sTHO,sSONG,=AADBjSYMBOL KON,qNUENG,qSAM,qHO HOI,qKOI KOI",
    "aMEETEI MAYEK LETTER E,uO,uCHA,uNYA,uTTA,wHA,uDDA,wHA,uNNA,uSHA,vSA,nVOWEL SIGN II,yUU,yAAI,zU",
    "zAU,nCHEIKHAN,nAHANG KHUDAM,oNJI,nSYLLABLE REPETITION MARK,nWORD REPETITION MARK",
    "nVOWEL SIGN VISARGA,oIRAMA,=AB01aETHIOPIC SYLLABLE TTHU,vI,vAA,vEE,vE,vO,=AB09sDDHU,vI,vAA,vEE",
    "vE,vO,=AB11tZU,uI,uAA,uEE,uE,uO,=AB20sCCHHA,wU,wI,wAA,wEE,wE,wO,=AB28sBBA,uU,uI,uAA,uEE,uE,uO",
    "=AB30aLATIN SMALL LETTER BARRED ALPHA,tA REVERSED-SCHWA,tBLACKLETTER E,uARRED E",
    "tE WITH FLOURISH,tLENIS F,tSCRIPT G WITH CROSSED-TAIL,tL WITH INVERTED LAZY S",
    "zbDOUBLE MIDDLE TILDE,zbMIDDLE RING,tM WITH CROSSED-TAIL,tN WITH CROSSED-TAIL",
    "tENG WITH CROSSED-TAIL,tBLACKLETTER O,zh WITH STROKE,tOPEN O WITH STROKE,tINVERTED OE",
    "tTURNED OE WITH STROKE,zjHORIZONTAL STROKE,zc OPEN-O,zj WITH STROKE,tSTIRRUP R",
    "gLETTER SMALL CAPITAL R WITH RIGHT LEG,gSMALL LETTER R WITHOUT HANDLE,tDOUBLE R",
    "tR WITH CROSSED-TAIL,tDOUBLE R WITH CROSSED-TAIL,tSCRIPT R,zc WITH RING,tBASELINE ESH",
    "tU WITH SHORT RIGHT LEG,vBAR WITH SHORT RIGHT LEG,uI,tTURNED UI,tU WITH LEFT HOOK,tCHI",
    "w WITH LOW RIGHT RING,zhLEFT SERIF,tX WITH LOW RIGHT RING,zdNG LEFT LEG,zo AND LOW RIGHT RING",
    "zpWITH SERIF,tY WITH SHORT RIGHT LEG,aMODIFIER BREVE WITH INVERTED BREVE,jLETTER SMALL HENG",
    "wL WITH INVERTED LAZY S,zeMIDDLE TILDE,wU WITH LEFT HOOK,aLATIN SMALL LETTER SAKHA YAT",
    "tIOTIFIED E,tOPEN OE,tUO,tINVERTED ALPHA,aGREEK LETTER SMALL CAPITAL OMEGA",
    "aLATIN SMALL LETTER DZ DIGRAPH WITH RETROFLEX HOOK,tTS DIGRAPH WITH RETROFLEX HOOK",
    "uURNED R WITH MIDDLE TILDE,aMODIFIER LETTER SMALL TURNED W,qLEFT TACK,qRIGHT TACK",
    "=AB70aCHEROKEE SMALL LETTER A,wE,wI,wO,wU,wV,wGA,wKA,wGE,xI,xO,xU,xV,wHA,xE,xI,xO,xU,xV,wLA,xE",
    "xI,xO,xU,xV,wMA,xE,xI,xO,xU,wNA,wHNA,wNAH,xE,xI,xO,xU,xV,wQUA,yE,yI,yO,yU,yV,wSA,wS,xE,xI,xO",
    "xU,xV,wDA,wTA,wDE,wTE,wDI,wTI,wDO,xU,xV,xLA,wTLA,yE,yI,yO,yU,yV,xSA,yE,yI,yO,yU,yV,wWA,xE,xI",
    "xO,xU,xV,wYA,aMEETEI MAYEK LETTER KOK,uSAM,uLAI,uMIT,uPA,uNA,uCHIL,uTIL,uKHOU,uNGOU,uTHOU,uWAI",
    "uYANG,uHUK,uUN,uI,uPHAM,uATIYA,uGOK,uJHAM,uRAI,uBA,uJIL,uDIL,uGHOU,uDHOU,uBHAM,uKOK LONSUM",
    "uLAI LONSUM,uMIT LONSUM,uPA LONSUM,uNA LONSUM,uTIL LONSUM,uNGOU LONSUM,uI LONSUM",
    "nVOWEL SIGN ONAP,yINAP,yANAP,yYENAP,ySOUNAP,yUNAP,yCHEINAP,yNUNG,nCHEIKHEI,nLUM IYEK",
    "nAPUN IYEK,=ABF0nDIGIT ZERO,tONE,tTWO,uHREE,tFOUR,uIVE,tSIX,uEVEN,tEIGHT,tNINE",
    "=D7B0aHANGUL JUNGSEONG O-YEO,tO-I,rYO-A,vE,uEO,rU-YEO,tI-I,rYU-AE,uO,rEU-A,uEO,uE,uO,rI-YA-O",
    "vE,uEO,uE,tO-I,tYO,uU,tI,rARAEA-A,xE,=D7CBiONGSEONG NIEUN-RIEUL,xCHIEUCH,rSSANGTIKEUT,zd-PIEUP",
    "rTIKEUT-PIEUP,ySIOS,zd-KIYEOK,yCIEUC,zHIEUCH,yTHIEUTH,rRIEUL-SSANGKIYEOK,xKIYEOK-HIEUH",
    "rSSANGRIEUL-KHIEUKH,rRIEUL-MIEUM-HIEUH,xPIEUP-TIKEUT,zePHIEUPH,xYESIEUNG,zORINHIEUH-HIEUH",
    "rKAPYEOUNRIEUL,rMIEUM-NIEUN,xSSANGNIEUN,rSSANGMIEUM,rMIEUM-PIEUP-SIOS,xCIEUC,rPIEUP-TIKEUT",
    "xRIEUL-PHIEUPH,xMIEUM,rSSANGPIEUP,rPIEUP-SIOS-TIKEUT,xCIEUC,yHIEUCH,rSIOS-MIEUM,wKAPYEOUNPIEUP",
    "sSANGSIOS-KIYEOK,zcTIKEUT,sIOS-PANSIOS,wCIEUC,xHIEUCH,wTHIEUTH,wHIEUH,rPANSIOS-PIEUP",
    "zKAPYEOUNPIEUP,rYESIEUNG-MIEUM,zbHIEUH,rCIEUC-PIEUP,xSSANGPIEUP,rSSANGCIEUC,rPHIEUPH-SIOS",
    "zTHIEUTH"]

end Reconcile.Text.CharName
