/-!
# Names of characters from U+10000 to U+11FFF

The lines are read by `Reconcile.Text.CharName`.
-/

namespace Reconcile.Text.CharName

/-- The names of the characters from U+10000 to U+11FFF. -/
def namesFrom10000 : List String :=
  [
    "=10000aLINEAR B SYLLABLE B008 A,u38 E,u28 I,u61 O,u10 U,u01 DA,u45 DE,u07 DI,u14 DO,u51 DU",
    "v7 JA,u46 JE,=1000Du36 JO,u65 JU,u77 KA,u44 KE,u67 KI,u70 KO,u81 KU,v0 MA,u13 ME,u73 MI,u15 MO",
    "u23 MU,u06 NA,u24 NE,u30 NI,u52 NO,v5 NU,u03 PA,u72 PE,u39 PI,u11 PO,u50 PU,u16 QA,u78 QE",
    "u21 QI,u32 QO,=10028u60 RA,u27 RE,u53 RI,u02 RO,u26 RU,u31 SA,u09 SE,u41 SI,u12 SO,u58 SU",
    "v9 TA,u04 TE,u37 TI,u05 TO,u69 TU,u54 WA,u75 WE,u40 WI,v2 WO,=1003Cu17 ZA,u74 ZE,=1003Fu20 ZO",
    "v5 A2,u43 A3,u85 AU,u71 DWE,u90 DWO,u48 NWA,u29 PU2,u62 PTE,u76 RA2,u33 RA3,u68 RO2,v6 TA2",
    "u87 TWE,u91 TWO,=10050lMBOL B018,t9,s22,s34,s47,t9,s56,s63,t4,s79,s82,t3,t6,t9",
    "=10080jIDEOGRAM B100 MAN,v2 WOMAN,v4 DEER,v5 EQUID,wF MARE,wM STALLION,v6F EWE,wM RAM",
    "v7F SHE-GOAT,wM HE-GOAT,v8F SOW,wM BOAR,v9F COW,wM BULL,u20 WHEAT,v1 BARLEY,v2 OLIVE,v3 SPICE",
    "v5 CYPERUS,jMONOGRAM B127 KAPO,v8 KANAKO,jIDEOGRAM B130 OIL,v1 WINE,v2,jMONOGRAM B133 AREPA",
    "v5 MERI,jIDEOGRAM B140 BRONZE,v1 GOLD,v2,v5 WOOL,v6,u50,v1 HORN,v2,v3,v4,jMONOGRAM B156 TURO2",
    "jIDEOGRAM B157,v8,v9 CLOTH,u60,v1,v2 GARMENT,v3 ARMOUR,v4,v5,v6,v7,v8,v9,u70,v1,v2,v3 MONTH,v4",
    "v6 TREE,v7,v8,v9,u80,v1,v2,v3,v4,v5,v9,u90,v1 HELMET,t220 FOOTSTOOL,v5 BATHTUB,u30 SPEAR",
    "v1 ARROW,v2,v3 SWORD,v4,v6,u40 WHEELED CHARIOT,v1 CHARIOT,v2 CHARIOT FRAME,v3 WHEEL,v5,v6",
    "jMONOGRAM B247 DIPTE,jIDEOGRAM B248,v9,u51,v2,v3,v4 DART,v5,v6,v7,v8,v9,sVESSEL B155,zb200,zd1",
    "zd2,zd3,zd4,zd5,zd6,zd7,zd8,zd9,zc10,zd1,zd2,zd3,zd4,zd5,zd6,zd7,zd8,zd9,zc21,zd2,zd6,zd7,zd8",
    "zd9,zc50,zb305,=10100aAEGEAN WORD SEPARATOR LINE,wDOT,hCHECK MARK,=10107hNUMBER ONE,oTWO,pHREE",
    "oFOUR,pIVE,oSIX,pEVEN,oEIGHT,oNINE,oTEN,pWENTY,pHIRTY,oFORTY,pIFTY,oSIXTY,pEVENTY,oEIGHTY",
    "oNINETY,oONE HUNDRED,oTWO HUNDRED,pHREE HUNDRED,oFOUR HUNDRED,pIVE HUNDRED,oSIX HUNDRED",
    "pEVEN HUNDRED,oEIGHT HUNDRED,oNINE HUNDRED,oONE THOUSAND,oTWO THOUSAND,pHREE THOUSAND",
    "oFOUR THOUSAND,pIVE THOUSAND,oSIX THOUSAND,pEVEN THOUSAND,oEIGHT THOUSAND,oNINE THOUSAND",
    "oTEN THOUSAND,pWENTY THOUSAND,pHIRTY THOUSAND,oFORTY THOUSAND,pIFTY THOUSAND,oSIXTY THOUSAND",
    "pEVENTY THOUSAND,oEIGHTY THOUSAND,oNINETY THOUSAND,=10137hWEIGHT BASE UNIT,oFIRST SUBUNIT",
    "oSECOND SUBUNIT,oTHIRD SUBUNIT,oFOURTH SUBUNIT,hDRY MEASURE FIRST SUBUNIT",
    "hLIQUID MEASURE FIRST SUBUNIT,hMEASURE SECOND SUBUNIT,pTHIRD SUBUNIT",
    "aGREEK ACROPHONIC ATTIC ONE QUARTER,zcHALF,zcDRACHMA,xFIVE,zFTY,zVE HUNDRED,zdTHOUSAND",
    "zFTY THOUSAND,zVE TALENTS,xTEN TALENTS,xFIFTY TALENTS,xONE HUNDRED TALENTS",
    "xFIVE HUNDRED TALENTS,xONE THOUSAND TALENTS,xFIVE THOUSAND TALENTS,zdSTATERS,xTEN STATERS",
    "xFIFTY STATERS,xONE HUNDRED STATERS,xFIVE HUNDRED STATERS,xONE THOUSAND STATERS",
    "xTEN THOUSAND STATERS,xFIFTY THOUSAND STATERS,xTEN MNAS,rHERAEUM ONE PLETHRON,rTHESPIAN ONE",
    "rHERMIONIAN ONE,rEPIDAUREAN TWO,rTHESPIAN TWO,rCYRENAIC TWO DRACHMAS,rEPIDAUREAN TWO DRACHMAS",
    "rTROEZENIAN FIVE,zdTEN,zg ALTERNATE FORM,rHERMIONIAN TEN,rMESSENIAN TEN,rTHESPIAN TEN,zcHIRTY",
    "sROEZENIAN FIFTY,zi ALTERNATE FORM,rHERMIONIAN FIFTY,rTHESPIAN FIFTY,zbONE HUNDRED",
    "zbTHREE HUNDRED,rEPIDAUREAN FIVE HUNDRED,rTROEZENIAN FIVE HUNDRED,sHESPIAN FIVE HUNDRED",
    "rCARYSTIAN FIVE HUNDRED,rNAXIAN FIVE HUNDRED,rTHESPIAN ONE THOUSAND,zbFIVE THOUSAND",
    "rDELPHIC FIVE MNAS,rSTRATIAN FIFTY MNAS,gONE HALF SIGN,t ALTERNATE FORM,gTWO THIRDS SIGN",
    "hHREE QUARTERS SIGN,gYEAR SIGN,gTALENT SIGN,gDRACHMA SIGN,gOBOL SIGN,gTWO OBOLS SIGN",
    "hHREE OBOLS SIGN,gFOUR OBOLS SIGN,hIVE OBOLS SIGN,gMETRETES SIGN,gKYATHOS BASE SIGN",
    "gLITRA SIGN,gOUNKIA SIGN,gXESTES SIGN,gARTABE SIGN,iOURA SIGN,gGRAMMA SIGN,gTRYBLION BASE SIGN",
    "gZERO SIGN,gONE QUARTER SIGN,gSINUSOID SIGN,gINDICTION SIGN,aNOMISMA SIGN",
    "=10190aROMAN SEXTANS SIGN,gUNCIA SIGN,gSEMUNCIA SIGN,iXTULA SIGN,gDIMIDIA SEXTULA SIGN",
    "gSILIQUA SIGN,gDENARIUS SIGN,gQUINARIUS SIGN,gSESTERTIUS SIGN,gDUPONDIUS SIGN,gAS SIGN",
    "gCENTURIAL SIGN,aASCIA SYMBOL,=101A0aGREEK SYMBOL TAU RHO,=101D0aPHAISTOS DISC SIGN PEDESTRIAN",
    "uLUMED HEAD,tTATTOOED HEAD,tCAPTIVE,uHILD,tWOMAN,tHELMET,tGAUNTLET,tTIARA,tARROW,tBOW,tSHIELD",
    "tCLUB,tMANACLES,vTTOCK,tSAW,tLID,tBOOMERANG,tCARPENTRY PLANE,tDOLIUM,tCOMB,tSLING,tCOLUMN",
    "tBEEHIVE,tSHIP,tHORN,uIDE,tBULLS LEG,tCAT,tRAM,tEAGLE,tDOVE,tTUNNY,tBEE,tPLANE TREE,tVINE",
    "tPAPYRUS,tROSETTE,tLILY,tOX BACK,tFLUTE,tGRATER,tSTRAINER,uMALL AXE,tWAVY BAND",
    "tCOMBINING OBLIQUE STROKE,=10280aLYCIAN LETTER A,oE,oB,pH,oG,oD,oI,oW,oZ,oTH,oJ,oK,oQ,oL,oM,oN",
    "oMM,oNN,oU,oP,oKK,oR,oS,oT,pT,oAN,oEN,oH,oX,=102A0aCARIAN LETTER A,oP2,oD,oL,oUUU,oR,oLD,oA2",
    "oQ,oB,oM,oO,oD2,oT,oSH,q2,oS,oC-18,oU,oNN,oX,oN,oTT2,oP,oSS,oI,oE,oUUUU,oK,p2,oND,oUU,oG,p2",
    "oST,q2,oNG,oII,oC-39,oTT,oUUU2,oRR,oMB,q2,q3,q4,oLD2,oE2,oUUU3",
    "=102E0bOPTIC EPACT THOUSANDS MARK,nDIGIT ONE,tTWO,uHREE,tFOUR,uIVE,tSIX,uEVEN,tEIGHT,tNINE",
    "nNUMBER TEN,vWENTY,vHIRTY,uFORTY,vIFTY,uSIXTY,vEVENTY,uEIGHTY,uNINETY,uONE HUNDRED",
    "uTWO HUNDRED,vHREE HUNDRED,uFOUR HUNDRED,vIVE HUNDRED,uSIX HUNDRED,vEVEN HUNDRED",
    "uEIGHT HUNDRED,uNINE HUNDRED,=10300aOLD ITALIC LETTER A,sBE,sKE,sDE,sE,sVE,sZE,sHE,sTHE,sI,sKA",
    "sEL,tM,tN,tSH,sO,sPE,sSHE,sKU,sER,tS,sTE,sU,sEKS,sPHE,sKHE,sEF,tRS,sCHE,sII,sUU,sESS",
    "lNUMERAL ONE,tFIVE,tTEN,tFIFTY,=1032DlLETTER YE,sNORTHERN TSE,sSOUTHERN TSE",
    "aGOTHIC LETTER AHSA,oBAIRKAN,oGIBA,oDAGS,oAIHVUS,oQAIRTHRA,oIUJA,oHAGL,oTHIUTH,oEIS,oKUSMA",
    "oLAGUS,oMANNA,oNAUTHS,oJER,oURUS,oPAIRTHRA,oNINETY,oRAIDA,oSAUIL,oTEIWS,oWINJA,oFAIHU,oIGGWS",
    "oHWAIR,oOTHAL,oNINE HUNDRED,=10350aOLD PERMIC LETTER AN,sBUR,sGAI,sDOI,sE,sZHOI,sDZHOI,sZATA",
    "sDZITA,sI,sKOKE,sLEI,sMENOE,sNENOE,sVOOI,sPEEI,sREI,sSII,sTAI,sU,sCHERY,sSHOOI,uCHOOI,sYRY",
    "tERU,sO,tO,sEF,sHA,sTSIU,sVER,sYER,vI,tAT,sIE,sYU,tA,sIA,aCOMBINING OLD PERMIC LETTER AN,zdDOI",
    "zdZATA,zdNENOE,zdSII,=10380aUGARITIC LETTER ALPA,qBETA,qGAMLA,qKHA,qDELTA,qHO,qWO,qZETA,qHOTA",
    "qTET,qYOD,qKAF,qSHIN,qLAMDA,qMEM,qDHAL,qNUN,qZU,qSAMKA,qAIN,qPU,qSADE,qQOPA,qRASHA,qTHANNA",
    "qGHAIN,qTO,qI,qU,qSSU,=1039FjWORD DIVIDER,aOLD PERSIAN SIGN A,rI,rU,rKA,sU,rGA,sU,rXA,rCA,rJA",
    "sI,rTA,sU,rDA,sI,sU,rTHA,rPA,rBA,rFA,rNA,sU,rMA,sI,sU,rYA,rVA,sI,rRA,sU,rLA,rSA,rZA,rSHA,sSA",
    "rHA,=103C8rAURAMAZDAA,zc-2,zcHA,rXSHAAYATHIYA,rDAHYAAUSH,zb-2,rBAGA,sUUMISH,mWORD DIVIDER",
    "mNUMBER ONE,tTWO,uEN,uWENTY,tHUNDRED,=10400aDESERET CAPITAL LETTER LONG I,zdE,zdA,zeH,zdO,zeO",
    "xSHORT I,zeE,zeA,zfH,zeO,zfO,xAY,xOW,xWU,xYEE,xH,xPEE,xBEE,xTEE,xDEE,xCHEE,xJEE,xKAY,xGAY,xEF",
    "xVEE,xETH,xTHEE,xES,xZEE,xESH,xZHEE,xER,yL,yM,yN,zG,xOI,xEW,iSMALL LETTER LONG I,zbE,zbA,zcH",
    "zbO,zcO,vSHORT I,zcE,zcA,zdH,zcO,zdO,vAY,vOW,vWU,vYEE,vH,vPEE,vBEE,vTEE,vDEE,vCHEE,vJEE,vKAY",
    "vGAY,vEF,vVEE,vETH,vTHEE,vES,vZEE,vESH,vZHEE,vER,wL,wM,wN,xG,vOI,vEW,aSHAVIAN LETTER PEEP,pTOT",
    "pKICK,pFEE,pTHIGH,pSO,qURE,pCHURCH,pYEA,pHUNG,pBIB,pDEAD,pGAG,pVOW,pTHEY,pZOO,pMEASURE,pJUDGE",
    "pWOE,pHA-HA,pLOLL,pMIME,pIF,pEGG,pASH,qDO,pON,pWOOL,pOUT,pAH,pROAR,pNUN,pEAT,pAGE,pICE,pUP",
    "pOAK,qOZE,qIL,pAWE,qRE,pOR,pAIR,pERR,pARRAY,pEAR,pIAN,pYEW,aOSMANYA LETTER ALEF,pBA,pTA,pJA",
    "pXA,pKHA,pDEEL,pRA,pSA,qHIIN,pDHA,pCAYN,pGA,pFA,pQAAF,pKAAF,pLAAN,pMIIN,pNUUN,pWAW,pHA,pYA,pA",
    "pE,pI,pO,pU,pAA,pEE,pOO,=104A0iDIGIT ZERO,oONE,oTWO,pHREE,oFOUR,pIVE,oSIX,pEVEN,oEIGHT,oNINE",
    "=104B0cAGE CAPITAL LETTER A,wI,xN,wH,vBRA,vCHA,vEHCHA,vE,wIN,vHA,wYA,vI,vKA,vEHKA,vKYA,vLA,vMA",
    "vNA,vO,wIN,vPA,vEHPA,vSA,wHA,vTA,vEHTA,vTSA,vEHTSA,vTSHA,vDHA,vU,vWA,vKHA,vGHA,vZA,wHA",
    "=104D8gSMALL LETTER A,uI,vN,uH,tBRA,tCHA,tEHCHA,tE,uIN,tHA,uYA,tI,tKA,tEHKA,tKYA,tLA,tMA,tNA",
    "tO,uIN,tPA,tEHPA,tSA,uHA,tTA,tEHTA,tTSA,tEHTSA,tTSHA,tDHA,tU,tWA,tKHA,tGHA,tZA,uHA",
    "=10500aELBASAN LETTER A,pBE,pCE,qHE,pDE,pNDE,pDHE,pEI,pE,pFE,pGE,qJE,pHE,pI,pJE,pKE,pLE,qLE",
    "pME,pNE,qA,qJE,pO,pPE,pQE,pRE,qRE,pSE,qHE,pTE,qHE,pU,pVE,pXE,pY,pZE,qHE,pGHE,rAMMA,pKHE",
    "=10530aCAUCASIAN ALBANIAN LETTER ALT,zbBET,zbGIM,zbDAT,zbEB,zbZARL,zbEYN,zbZHIL,zbTAS,zbCHA",
    "zbYOWD,zbZHA,zbIRB,zbSHA,zbLAN,zbINYA,zbXEYN,zbDYAN,zbCAR,zbJHOX,zbKAR,zbLYIT,zbHEYT,zbQAY",
    "zbAOR,zbCHOY,zdI,zcYAY,zbMAQ,zbQAR,zbNOWC,zbDZYAY,zbSHAK,zbJAYN,zbON,zbTYAY,zbFAM,zbDZAY",
    "zbCHAT,zbPEN,zbGHEYS,zbRAT,zbSEYK,zbVEYZ,zbTIWR,zbSHOY,zbIWN,zbCYAW,zcAYN,zbYAYD,zbPIWR,zbKIW",
    "=1056FtCITATION MARK,aVITHKUQI CAPITAL LETTER A,yBBE,zE,yCE,zHE,yDE,zHE,yEI,yE,yFE,yGA",
    "=1057CyHA,zHA,yI,zJE,yJE,yKA,yLA,zLA,yME,yNE,zJE,yO,yPE,yQA,yRE,=1058CySE,zHE,yTE,zHE,yU,yVE",
    "yXE,=10594yY,yZE,=10597jSMALL LETTER A,wBBE,xE,wCE,xHE,wDE,xHE,wEI,wE,wFE,wGA,=105A3wHA,xHA,wI",
    "xJE,wJE,wKA,wLA,xLA,wME,wNE,xJE,wO,wPE,wQA,wRE,=105B3wSE,xHE,wTE,xHE,wU,wVE,wXE,=105BBwY,wZE",
    "=10600aLINEAR A SIGN AB001,s2,s3,s4,s5,s6,s7,s8,s9,r10,s1,s3,s6,s7,r20,s1,tF,tM,s2,tF,tM,s3,tM",
    "s4,s6,s7,s8,p028B,pB029,r30,s1,s4,s7,s8,s9,r40,s1,s4,s5,s6,s7,s8,s9,r50,s1,s3,s4,s5,s6,s7,s8",
    "s9,r60,s1,s5,s6,s7,s9,r70,s3,s4,s6,s7,s8,s9,r80,s1,s2,s5,s6,s7,p100-102,pB118,r20,p120B,pB122",
    "s3,r31A,tB,p131C,pB164,r71,r80,s8,r91,p301,r2,r3,r4,r5,r6,r7,r8,r9A,sB,sC,q10,r1,r2,r3A,sB,sC",
    "r4,r5,r6,r7,r8,r9,q20,r1,r2,r3,r4,r5,r6,r7,r8,r9,q30,r1,r2,r3,r4,r5,r6,r7,r8,r9,q40,r1,r2,r3",
    "r4,r5,r6,r7,r8,r9,q50,r1,r2,r3,r4,r5,r6,r7,r8,r9,q60,r1,r2,r3,r4,r5,r6,r7,r8,r9,q70,r1",
    "p400-VAS,r1-VAS,r2-VAS,r3-VAS,r4-VAS,r5-VAS,r6-VAS,r7-VAS,r8-VAS,r9-VAS,q10-VAS,r1-VAS,r2-VAS",
    "r3-VAS,r4-VAS,r5-VAS,r6-VAS,r7-VAS,r8-VAS,p501,r2,r3,r4,r5,r6,r8,r9,q10,r1,r2,r3,r5,r6,q20,r1",
    "r3,r4,r5,r6,r7,r8,r9,q30,r1,r2,r4,r5,r6,r7,r8,r9,q40,r1,r2,r5,r7,r8,r9,q50,r1,r2,r3,r4,r5,r6",
    "r7,r9,q63,r4,r5,r6,r8,r9,q70,r1,r2,r3,r4,r5,r6,r7,r8,r9,q80,r1,r2,r3,r4,r5,r6,r7,r8,r9,q91,r2",
    "r4,r5,r6,r8,p600,r1,r2,r3,r4,r6,r8,r9,q10,r1,r2,r3,r4,r5,r6,r7,r8,r9,q20,r1,r2,r3,r4,r6,r7,r8",
    "r9,q34,r7,r8,q40,r2,r3,r4,r5,r6,r8,r9,q51,r2,r3,r4,r5,r6,r7,r8,r9,q60,r1,r2,r3,r4,=10740p701 A",
    "r2 B,r3 D,r4 E,r5 F,r6 H,r7 J,r8 K,r9 L,s-2 L2,t3 L3,t4 L4,t6 L6,q10 W,r1 X,r2 Y,r3 OMEGA",
    "r4 ABB,r5 BB,r7 DD,q26 EYYY,q32 JE,=10760p800,r1,r2,r3,r4,r5,r6,r7",
    "=10780aMODIFIER LETTER SMALL CAPITAL AA,rUPERSCRIPT TRIANGULAR COLON,zdHALF TRIANGULAR COLON",
    "rMALL AE,wCAPITAL B,wB WITH HOOK,=10787wDZ DIGRAPH,zh WITH RETROFLEX HOOK,znCURL,xEZH DIGRAPH",
    "x WITH TAIL,zeHOOK,zi AND TAIL,wREVERSED E,wCLOSED REVERSED OPEN E,wFENG DIGRAPH,wRAMS HORN",
    "wCAPITAL G,wG WITH HOOK,wCAPITAL G WITH HOOK,wH WITH STROKE,wCAPITAL H,wHENG WITH HOOK",
    "wDOTLESS J WITH STROKE AND HOOK,wLS DIGRAPH,xZ DIGRAPH,x WITH BELT,wCAPITAL L WITH BELT",
    "wL WITH RETROFLEX HOOK AND BELT,xEZH,zb WITH RETROFLEX HOOK,wTURNED Y,zf WITH BELT",
    "wO WITH STROKE,wCAPITAL OE,xLOSED OMEGA,wQ,wTURNED R WITH LONG LEG,zt AND RETROFLEX HOOK",
    "wR WITH TAIL,zeFISHHOOK,wCAPITAL R,wTC DIGRAPH WITH CURL,xS DIGRAPH,zh WITH RETROFLEX HOOK",
    "xESH DIGRAPH,x WITH RETROFLEX HOOK,wV WITH RIGHT HOOK,=107B2wCAPITAL Y",
    "qGLOTTAL STOP WITH STROKE,qREVERSED GLOTTAL STOP WITH STROKE,qBILABIAL CLICK,qDENTAL CLICK",
    "qLATERAL CLICK,qALVEOLAR CLICK,qRETROFLEX CLICK WITH RETROFLEX HOOK,qSMALL S WITH CURL",
    "=10800aCYPRIOT SYLLABLE A,rE,rI,rO,rU,rJA,=10808sO,=1080ArKA,sE,sI,sO,sU,rLA,sE,sI,sO,sU,rMA",
    "sE,sI,sO,sU,rNA,sE,sI,sO,sU,rPA,sE,sI,sO,sU,rRA,sE,sI,sO,sU,rSA,sE,sI,sO,sU,rTA,sE,sI,sO,sU",
    "rWA,sE,sI,sO,=10837rXA,sE,=1083CrZA,=1083FsO,aIMPERIAL ARAMAIC LETTER ALEPH,yBETH,yGIMEL",
    "yDALETH,yHE,yWAW,yZAYIN,yHETH,yTETH,yYODH,yKAPH,yLAMEDH,yMEM,yNUN,ySAMEKH,yAYIN,yPE,ySADHE",
    "yQOPH,yRESH,ySHIN,yTAW,=10857rSECTION SIGN,rNUMBER ONE,yTWO,zHREE,zEN,zWENTY,yONE HUNDRED",
    "zdTHOUSAND,yTEN THOUSAND,aPALMYRENE LETTER ALEPH,rBETH,rGIMEL,rDALETH,rHE,rWAW,rZAYIN,rHETH",
    "rTETH,rYODH,rKAPH,rLAMEDH,rMEM,rFINAL NUN,rNUN,rSAMEKH,rAYIN,rPE,rSADHE,rQOPH,rRESH,rSHIN,rTAW",
    "mFT-POINTING FLEURON,kRIGHT-POINTING FLEURON,kNUMBER ONE,rTWO,sHREE,rFOUR,sIVE,rTEN,sWENTY",
    "aNABATAEAN LETTER FINAL ALEPH,rALEPH,rFINAL BETH,rBETH,rGIMEL,rDALETH,rFINAL HE,rHE,rWAW",
    "rZAYIN,rHETH,rTETH,rFINAL YODH,rYODH,rFINAL KAPH,rKAPH,rFINAL LAMEDH,rLAMEDH,rFINAL MEM,rMEM",
    "rFINAL NUN,rNUN,rSAMEKH,rAYIN,rPE,rSADHE,rQOPH,rRESH,rFINAL SHIN,rSHIN,rTAW,=108A7kNUMBER ONE",
    "rTWO,sHREE,rFOUR,kCRUCIFORM NUMBER FOUR,kNUMBER FIVE,rTEN,sWENTY,rONE HUNDRED",
    "=108E0aHATRAN LETTER ALEPH,oBETH,oGIMEL,oDALETH-RESH,oHE,oWAW,oZAYN,oHETH,oTETH,oYODH,oKAPH",
    "oLAMEDH,oMEM,oNUN,oSAMEKH,oAYN,oPE,oSADHE,oQOPH,=108F4oSHIN,oTAW,=108FBhNUMBER ONE,oFIVE,oTEN",
    "pWENTY,oONE HUNDRED,aPHOENICIAN LETTER ALF,sBET,sGAML,sDELT,sHE,sWAU,sZAI,sHET,sTET,sYOD,sKAF",
    "sLAMD,sMEM,sNUN,sSEMK,sAIN,sPE,sSADE,sQOF,sROSH,sSHIN,sTAU,lNUMBER ONE,sTEN,tWENTY",
    "sONE HUNDRED,sTWO,tHREE,=1091FlWORD SEPARATOR,aLYDIAN LETTER A,oB,oG,oD,oE,oV,oI,oY,oK,oL,oM",
    "oN,oO,oR,oSS,oT,oU,oF,oQ,oS,oTT,oAN,oEN,oLY,oNN,oC,=1093FhTRIANGULAR MARK",
    "=10980aMEROITIC HIEROGLYPHIC LETTER A,zeE,zeI,zeO,zeYA,zeWA,zeBA,zg-2,zePA,zeMA,zeNA,zg-2,zfE",
    "zg-2,zeRA,zg-2,zeLA,zeKHA,zeHHA,zeSA,zg-2,zfE,zeKA,zeQA,zeTA,zg-2,zfE,zg-2,zfO,zeDA",
    "wSYMBOL VIDJ,zi-2,jCURSIVE LETTER A,yE,yI,yO,yYA,yWA,yBA,yPA,yMA,yNA,zE,yRA,yLA,yKHA,yHHA,ySA",
    "yARCHAIC SA,ySE,yKA,yQA,yTA,zE,zO,yDA,=109BCrFRACTION ELEVEN TWELFTHS,zbONE HALF,rLOGOGRAM RMT",
    "zbIMN,rNUMBER ONE,yTWO,zHREE,yFOUR,zIVE,ySIX,zEVEN,yEIGHT,yNINE,yTEN,zWENTY,zHIRTY,yFORTY",
    "zIFTY,ySIXTY,zEVENTY,=109D2yONE HUNDRED,yTWO HUNDRED,zHREE HUNDRED,yFOUR HUNDRED,zIVE HUNDRED",
    "ySIX HUNDRED,zEVEN HUNDRED,yEIGHT HUNDRED,yNINE HUNDRED,yONE THOUSAND,yTWO THOUSAND",
    "zHREE THOUSAND,yFOUR THOUSAND,zIVE THOUSAND,ySIX THOUSAND,zEVEN THOUSAND,yEIGHT THOUSAND",
    "yNINE THOUSAND,yTEN THOUSAND,zWENTY THOUSAND,zHIRTY THOUSAND,yFORTY THOUSAND,zIFTY THOUSAND",
    "ySIXTY THOUSAND,zEVENTY THOUSAND,yEIGHTY THOUSAND,yNINETY THOUSAND,yONE HUNDRED THOUSAND",
    "yTWO HUNDRED THOUSAND,zHREE HUNDRED THOUSAND,yFOUR HUNDRED THOUSAND,zIVE HUNDRED THOUSAND",
    "ySIX HUNDRED THOUSAND,zEVEN HUNDRED THOUSAND,yEIGHT HUNDRED THOUSAND,yNINE HUNDRED THOUSAND",
    "rFRACTION ONE TWELFTH,zbTWO TWELFTHS,zcHREE TWELFTHS,zbFOUR TWELFTHS,zcIVE TWELFTHS",
    "zbSIX TWELFTHS,zcEVEN TWELFTHS,zbEIGHT TWELFTHS,zbNINE TWELFTHS,zbTEN TWELFTHS",
    "aKHAROSHTHI LETTER A,lVOWEL SIGN I,wU,wVOCALIC R,=10A05wE,wO,=10A0CrLENGTH MARK",
    "lSIGN DOUBLE RING BELOW,qANUSVARA,qVISARGA,lLETTER KA,tHA,sGA,tHA,=10A15sCA,tHA,sJA,=10A19sNYA",
    "sTTA,uHA,sDDA,uHA,sNNA,sTA,tHA,sDA,tHA,sNA,sPA,tHA,sBA,tHA,sMA,sYA,sRA,sLA,sVA,sSHA,tSA,tA,sZA",
    "sHA,sKKA,sTTTHA,vA,sVHA,=10A38lSIGN BAR ABOVE,qCAUDA,qDOT BELOW,=10A3FlVIRAMA,lDIGIT ONE,rTWO",
    "sHREE,rFOUR,lNUMBER TEN,tWENTY,sONE HUNDRED,wTHOUSAND,lFRACTION ONE HALF",
    "=10A50lPUNCTUATION DOT,xSMALL CIRCLE,xCIRCLE,yRESCENT BAR,xMANGALAM,xLOTUS,xDANDA,yOUBLE DANDA",
    "xLINES,=10A60aOLD SOUTH ARABIAN LETTER HE,zLAMEDH,zHETH,zMEM,zQOPH,zWAW,zSHIN,zRESH,zBETH,zTAW",
    "zSAT,zKAPH,zNUN,zKHETH,zSADHE,zcMEKH,zFE,zALEF,zbYN,zDHADHE,zGIMEL,zDALETH,zGHAYN,zTETH,zZAYN",
    "zDHALETH,zYODH,zTHAW,zcETH,sNUMBER ONE,zFIFTY,vERIC INDICATOR,eNORTH ARABIAN LETTER HEH,zLAM",
    "zHAH,zMEEM,zQAF,zWAW,zES-2,zREH,zBEH,zTEH,zES-1,zKAF,zNOON,zKHAH,zSAD,zES-3,zFEH,zALEF,zbIN",
    "zDAD,zGEEM,zDAL,zGHAIN,zTAH,zZAIN,zTHAL,zYEH,zTHEH,zZAH,sNUMBER ONE,zTEN,zbWENTY",
    "=10AC0aMANICHAEAN LETTER ALEPH,sBETH,tHETH,sGIMEL,tHIMEL,sDALETH,sHE,sWAW,lSIGN UD",
    "lLETTER ZAYIN,tHAYIN,sJAYIN,tHAYIN,sHETH,sTETH,sYODH,sKAPH,sXAPH,sKHAPH,sLAMEDH,sDHAMEDH",
    "sTHAMEDH,sMEM,sNUN,sSAMEKH,sAYIN,tAYIN,sPE,sFE,sSADHE,sQOPH,sXOPH,sQHOPH,sRESH,sSHIN,tSHIN",
    "sTAW,lABBREVIATION MARK ABOVE,zeBELOW,=10AEBlNUMBER ONE,sFIVE,sTEN,tWENTY,sONE HUNDRED",
    "lPUNCTUATION STAR,xFLEURON,xDOUBLE DOT WITHIN DOT,zT WITHIN DOT,zT,xTWO DOTS,xLINE FILLER",
    "=10B00aAVESTAN LETTER A,qA,qO,qAO,qN,qAN,qE,rE,pE,qE,pO,qO,pI,qI,pU,qU,pKE,pXE,qYE,qVE,pGE,qGE",
    "qHE,pCE,pJE,pTE,qHE,pDE,qHE,pTTE,pPE,pFE,pBE,qHE,pNGE,rYE,rVE,qE,qYE,qNE,pME,pHME,pYYE,qE,pVE",
    "pRE,pLE,pSE,pZE,pSHE,pZHE,pSHYE,qSHE,pHE,=10B39iABBREVIATION MARK",
    "aTINY TWO DOTS OVER ONE DOT PUNCTUATION,aSMALL TWO DOTS OVER ONE DOT PUNCTUATION",
    "aLARGE TWO DOTS OVER ONE DOT PUNCTUATION,gONE DOT OVER TWO DOTS PUNCTUATION",
    "gTWO RINGS OVER ONE RING PUNCTUATION,gONE RING OVER TWO RINGS PUNCTUATION",
    "aINSCRIPTIONAL PARTHIAN LETTER ALEPH,zfBETH,zfGIMEL,zfDALETH,zfHE,zfWAW,zfZAYIN,zfHETH,zfTETH",
    "zfYODH,zfKAPH,zfLAMEDH,zfMEM,zfNUN,zfSAMEKH,zfAYIN,zfPE,zfSADHE,zfQOPH,zfRESH,zfSHIN,zfTAW",
    "=10B58xNUMBER ONE,zfTWO,zgHREE,zfFOUR,zfTEN,zgWENTY,zfONE HUNDRED,zjTHOUSAND",
    "qHLAVI LETTER ALEPH,zeBETH,zeGIMEL,zeDALETH,zeHE,zeWAW-AYIN-RESH,zeZAYIN,zeHETH,zeTETH,zeYODH",
    "zeKAPH,zeLAMEDH,zeMEM-QOPH,zeNUN,zeSAMEKH,zePE,zeSADHE,zfHIN,zeTAW,=10B78wNUMBER ONE,zeTWO",
    "zfHREE,zeFOUR,zeTEN,zfWENTY,zeONE HUNDRED,ziTHOUSAND,aPSALTER PAHLAVI LETTER ALEPH,xBETH",
    "xGIMEL,xDALETH,xHE,xWAW-AYIN-RESH,xZAYIN,xHETH,xYODH,xKAPH,xLAMEDH,xMEM-QOPH,xNUN,xSAMEKH,xPE",
    "xSADHE,yHIN,xTAW,=10B99qSECTION MARK,qTURNED SECTION MARK,qFOUR DOTS WITH CROSS,zgDOT",
    "=10BA9qNUMBER ONE,xTWO,yHREE,xFOUR,xTEN,yWENTY,xONE HUNDRED,=10C00aOLD TURKIC LETTER ORKHON A",
    "sYENISEI A,zcE,sORKHON I,sYENISEI I,zbE,sORKHON O,zbE,sYENISEI OE,sORKHON AB,sYENISEI AB",
    "sORKHON AEB,sYENISEI AEB,sORKHON AG,sYENISEI AG,sORKHON AEG,sYENISEI AEG,sORKHON AD",
    "sYENISEI AD,sORKHON AED,zEZ,sYENISEI EZ,sORKHON AY,sYENISEI AY,sORKHON AEY,sYENISEI AEY",
    "sORKHON AEK,sYENISEI AEK,sORKHON OEK,sYENISEI OEK,sORKHON AL,sYENISEI AL,sORKHON AEL,zELT,zbM",
    "zAN,zbEN,sYENISEI AEN,sORKHON ENT,sYENISEI ENT,sORKHON ENC,sYENISEI ENC,sORKHON ENY",
    "sYENISEI ENY,zbANG,sORKHON ENG,sYENISEI AENG,sORKHON EP,zOP,zIC,zEC,sYENISEI EC,sORKHON AQ",
    "sYENISEI AQ,sORKHON IQ,sYENISEI IQ,sORKHON OQ,sYENISEI OQ,sORKHON AR,sYENISEI AR,sORKHON AER",
    "zbS,zbES,zbSH,sYENISEI ASH,sORKHON ESH,sYENISEI ESH,sORKHON AT,sYENISEI AT,sORKHON AET",
    "sYENISEI AET,sORKHON OT,zBASH,=10C80eHUNGARIAN CAPITAL LETTER A,zfA,zeEB,zeAMB,zeEC,zfNC,zfCS",
    "zfD,zeAND,zeE,zeCLOSE E,zeEE,zfF,zfG,zgY,zfH,zeI,zfI,zeEJ,zfK,zeAK,zeUNK,zeEL,zgY,zfM,zfN,zgY",
    "zeO,zfO,zeNIKOLSBURG OE,zeRUDIMENTA OE,zeOEE,zeEP,zfMP,zfR,zeSHORT ER,zeES,zgZ,zfT,zfNT,zfTY",
    "zfCH,zeU,zfU,zeNIKOLSBURG UE,zeRUDIMENTA UE,zeEV,zfZ,zgS,zfNT-SHAPED SIGN,zeUS",
    "=10CC0oSMALL LETTER A,zdA,zcEB,zcAMB,zcEC,zdNC,zdCS,zdD,zcAND,zcE,zcCLOSE E,zcEE,zdF,zdG,zeY",
    "zdH,zcI,zdI,zcEJ,zdK,zcAK,zcUNK,zcEL,zeY,zdM,zdN,zeY,zcO,zdO,zcNIKOLSBURG OE,zcRUDIMENTA OE",
    "zcOEE,zcEP,zdMP,zdR,zcSHORT ER,zcES,zeZ,zdT,zdNT,zdTY,zdCH,zcU,zdU,zcNIKOLSBURG UE",
    "zcRUDIMENTA UE,zcEV,zdZ,zeS,zdNT-SHAPED SIGN,zcUS,=10CFAoNUMBER ONE,vFIVE,vTEN,vFIFTY",
    "vONE HUNDRED,zTHOUSAND,aHANIFI ROHINGYA LETTER A,xBA,xPA,xTA,yTA,xJA,xCA,xHA,xKHA,xFA,xDA,yDA",
    "xRA,yRA,xZA,xSA,yHA,xKA,xGA,xLA,xMA,xNA,xWA,xKINNA WA,xYA,xKINNA YA,xNGA,yYA,xVA,qVOWEL A,wI",
    "wU,wE,wO,qMARK SAKIN,vNA KHONNA,qSIGN HARBAHAY,vTAHALA,xNA,xSSI,=10D30qDIGIT ZERO,wONE,wTWO",
    "xHREE,wFOUR,xIVE,wSIX,xEVEN,wEIGHT,wNINE,=10E60aRUMI DIGIT ONE,lTWO,mHREE,lFOUR,mIVE,lSIX",
    "mEVEN,lEIGHT,lNINE,fNUMBER TEN,nWENTY,nHIRTY,mFORTY,nIFTY,mSIXTY,nEVENTY,mEIGHTY,mNINETY",
    "mONE HUNDRED,mTWO HUNDRED,nHREE HUNDRED,mFOUR HUNDRED,nIVE HUNDRED,mSIX HUNDRED,nEVEN HUNDRED",
    "mEIGHT HUNDRED,mNINE HUNDRED,fFRACTION ONE HALF,sQUARTER,sTHIRD,oTWO THIRDS",
    "=10E80aYEZIDI LETTER ELIF,oBE,oPE,pHE,oTHE,oSE,oCIM,pHIM,qHIM,oHHA,oXA,oDAL,oZAL,oRA,pHA,oZA",
    "oJA,oSIN,pHIN,pAD,oDAD,oTA,oZE,oEYN,oXHEYN,oFA,oVA,q ALTERNATE FORM,oQAF,oKAF,pHAF,oGAF,oLAM",
    "oMIM,oNUN,oUM,oWAW,oOW,oEW,oHAY,oYOT,oET,=10EABhCOMBINING HAMZA MARK,rMADDA MARK",
    "hHYPHENATION MARK,=10EB0hLETTER LAM WITH DOT ABOVE,oYOT WITH CIRCUMFLEX ABOVE",
    "=10F00aOLD SOGDIAN LETTER ALEPH,tFINAL ALEPH,tBETH,tFINAL BETH,tGIMEL,tHE,tFINAL HE,tWAW",
    "tZAYIN,tHETH,tYODH,tKAPH,tLAMEDH,tMEM,tNUN,tFINAL NUN,zd WITH VERTICAL TAIL,tSAMEKH,tAYIN",
    "uLTERNATE AYIN,tPE,tSADHE,tFINAL SADHE,zf WITH VERTICAL TAIL,tRESH-AYIN-DALETH,tSHIN,tTAW",
    "tFINAL TAW,zd WITH VERTICAL TAIL,mNUMBER ONE,tTWO,uHREE,tFOUR,uIVE,tTEN,uWENTY,uHIRTY",
    "tONE HUNDRED,mFRACTION ONE HALF,mLIGATURE AYIN-DALETH,=10F30aSOGDIAN LETTER ALEPH,pBETH,pGIMEL",
    "pHE,pWAW,pZAYIN,pHETH,pYODH,pKAPH,pLAMEDH,pMEM,pNUN,pSAMEKH,pAYIN,pPE,pSADHE,pRESH-AYIN,pSHIN",
    "pTAW,pFETH,pLESH,iINDEPENDENT SHIN,iCOMBINING DOT BELOW,sTWO DOTS BELOW,sDOT ABOVE",
    "sTWO DOTS ABOVE,sCURVE ABOVE,yBELOW,sHOOK ABOVE,xBELOW,sLONG HOOK BELOW,sRESH BELOW",
    "sSTROKE BELOW,iNUMBER ONE,pTEN,qWENTY,pONE HUNDRED,iPUNCTUATION TWO VERTICAL BARS,zm WITH DOTS",
    "uCIRCLE WITH DOT,uTWO CIRCLES WITH DOTS,uHALF CIRCLE WITH DOT,=10F70aOLD UYGHUR LETTER ALEPH",
    "sBETH,sGIMEL-HETH,sWAW,sZAYIN,sFINAL HETH,sYODH,sKAPH,sLAMEDH,sMEM,sNUN,sSAMEKH,sPE,sSADHE",
    "sRESH,sSHIN,sTAW,sLESH,lCOMBINING DOT ABOVE,zBELOW,vTWO DOTS ABOVE,zfBELOW,lPUNCTUATION BAR",
    "xTWO BARS,zcDOTS,xFOUR DOTS,=10FB0aCHORASMIAN LETTER ALEPH,sSMALL ALEPH,sBETH,sGIMEL,sDALETH",
    "sHE,sWAW,sCURLED WAW,sZAYIN,sHETH,sYODH,sKAPH,sLAMEDH,sMEM,sNUN,sSAMEKH,sAYIN,sPE,sRESH,sSHIN",
    "sTAW,lNUMBER ONE,sTWO,tHREE,sFOUR,sTEN,tWENTY,sONE HUNDRED,=10FE0aELYMAIC LETTER ALEPH,pBETH",
    "pGIMEL,pDALETH,pHE,pWAW,pZAYIN,pHETH,pTETH,pYODH,pKAPH,pLAMEDH,pMEM,pNUN,pSAMEKH,pAYIN,pPE",
    "pSADHE,pQOPH,pRESH,pSHIN,pTAW,jIGATURE ZAYIN-YODH,=11000aBRAHMI SIGN CANDRABINDU,mANUSVARA",
    "mVISARGA,mJIHVAMULIYA,mUPADHMANIYA,hLETTER A,pA,oI,pI,oU,pU,oVOCALIC R,xR,wL,xL,oE,oAI,oO,oAU",
    "oKA,pHA,oGA,pHA,oNGA,oCA,pHA,oJA,pHA,oNYA,oTTA,qHA,oDDA,qHA,oNNA,oTA,pHA,oDA,pHA,oNA,oPA,pHA",
    "oBA,pHA,oMA,oYA,oRA,oLA,oVA,oSHA,pSA,pA,oHA,oLLA,oOLD TAMIL LLLA,yRRA,yNNNA,hVOWEL SIGN AA",
    "sBHATTIPROLU AA,sI,tI,sU,tU,sVOCALIC R,zcR,zbL,zcL,sE,sAI,sO,sAU,iIRAMA,hDANDA,iOUBLE DANDA",
    "hPUNCTUATION DOT,vUBLE DOT,tLINE,tCRESCENT BAR,tLOTUS,=11052hNUMBER ONE,oTWO,pHREE,oFOUR,pIVE",
    "oSIX,pEVEN,oEIGHT,oNINE,oTEN,pWENTY,pHIRTY,oFORTY,pIFTY,oSIXTY,pEVENTY,oEIGHTY,oNINETY",
    "oONE HUNDRED,sTHOUSAND,hDIGIT ZERO,nONE,nTWO,oHREE,nFOUR,oIVE,nSIX,oEVEN,nEIGHT,nNINE",
    "hSIGN OLD TAMIL VIRAMA,hLETTER OLD TAMIL SHORT E,zfO,hVOWEL SIGN OLD TAMIL SHORT E,zjO",
    "hLETTER OLD TAMIL LLA,=1107FhNUMBER JOINER,aKAITHI SIGN CANDRABINDU,mANUSVARA,mVISARGA",
    "hLETTER A,pA,oI,pI,oU,pU,oE,oAI,oO,oAU,oKA,pHA,oGA,pHA,oNGA,oCA,pHA,oJA,pHA,oNYA,oTTA,qHA,oDDA",
    "qDHA,qHA,oRHA,oNNA,oTA,pHA,oDA,pHA,oNA,oPA,pHA,oBA,pHA,oMA,oYA,oRA,oLA,oVA,oSHA,pSA,pA,oHA",
    "hVOWEL SIGN AA,sI,tI,sU,tU,sE,sAI,sO,sAU,hSIGN VIRAMA,mNUKTA,hABBREVIATION SIGN",
    "hENUMERATION SIGN,hNUMBER SIGN,hSECTION MARK,hDOUBLE SECTION MARK,iANDA,iOUBLE DANDA",
    "hVOWEL SIGN VOCALIC R,=110CDhNUMBER SIGN ABOVE,=110D0aSORA SOMPENG LETTER SAH,uTAH,uBAH,uCAH",
    "uDAH,uGAH,uMAH,uNGAH,uLAH,uNAH,uVAH,uPAH,uYAH,uRAH,uHAH,uKAH,uJAH,uNYAH,uAH,uEEH,uIH,uUH,uOH",
    "uEH,uMAE,=110F0nDIGIT ZERO,tONE,tTWO,uHREE,tFOUR,uIVE,tSIX,uEVEN,tEIGHT,tNINE",
    "=11100aCHAKMA SIGN CANDRABINDU,mANUSVARA,mVISARGA,hLETTER AA,oI,oU,oE,oKAA,pHAA,oGAA,pHAA",
    "oNGAA,oCAA,pHAA,oJAA,pHAA,oNYAA,oTTAA,qHAA,oDDAA,qHAA,oNNAA,oTAA,pHAA,oDAA,pHAA,oNAA,oPAA,pHAA",
    "oBAA,pHAA,oMAA,oYYAA,pAA,oRAA,oLAA,oWAA,oSAA,oHAA,hVOWEL SIGN A,sI,tI,sU,tU,sE,sAI,sO,sAU,sOI",
    "hO MARK,hAU MARK,hVIRAMA,hMAAYYAA,=11136hDIGIT ZERO,nONE,nTWO,oHREE,nFOUR,oIVE,nSIX,oEVEN",
    "nEIGHT,nNINE,hSECTION MARK,hDANDA,iOUBLE DANDA,hQUESTION MARK,hLETTER LHAA,hVOWEL SIGN AA,sEI",
    "hLETTER VAA,=11150aMAHAJANI LETTER A,qI,qU,qE,qO,qKA,rHA,qGA,rHA,qCA,rHA,qJA,rHA,qNYA,qTTA,sHA",
    "qDDA,sHA,qNNA,qTA,rHA,qDA,rHA,qNA,qPA,rHA,qBA,rHA,qMA,qRA,qLA,qVA,qSA,qHA,qRRA,jSIGN NUKTA",
    "jABBREVIATION SIGN,jSECTION MARK,jLIGATURE SHRI,=11180aSHARADA SIGN CANDRABINDU,nANUSVARA",
    "nVISARGA,iLETTER A,qA,pI,qI,pU,qU,pVOCALIC R,yR,xL,yL,pE,pAI,pO,pAU,pKA,qHA,pGA,qHA,pNGA,pCA",
    "qHA,pJA,qHA,pNYA,pTTA,rHA,pDDA,rHA,pNNA,pTA,qHA,pDA,qHA,pNA,pPA,qHA,pBA,qHA,pMA,pYA,pRA,pLA",
    "qLA,pVA,pSHA,qSA,qA,pHA,iVOWEL SIGN AA,tI,uI,tU,uU,tVOCALIC R,zdR,zcL,zdL,tE,tAI,tO,tAU",
    "iSIGN VIRAMA,nAVAGRAHA,nJIHVAMULIYA,nUPADHMANIYA,iOM,iDANDA,jOUBLE DANDA,iABBREVIATION SIGN",
    "iSEPARATOR,jANDHI MARK,jIGN NUKTA,iVOWEL MODIFIER MARK,iEXTRA SHORT VOWEL MARK,iSUTRA MARK",
    "iVOWEL SIGN PRISHTHAMATRA E,iSIGN INVERTED CANDRABINDU,iDIGIT ZERO,oONE,oTWO,pHREE,oFOUR,pIVE",
    "oSIX,pEVEN,oEIGHT,oNINE,iEKAM,iSIGN SIDDHAM,iHEADSTROKE,iCONTINUATION SIGN,iSECTION MARK-1,v2",
    "=111E1bINHALA ARCHAIC DIGIT ONE,wTWO,xHREE,wFOUR,xIVE,wSIX,xEVEN,wEIGHT,wNINE,qNUMBER TEN",
    "yWENTY,yHIRTY,xFORTY,yIFTY,xSIXTY,yEVENTY,xEIGHTY,xNINETY,xONE HUNDRED,zcTHOUSAND",
    "=11200aKHOJKI LETTER A,pA,oI,oU,oE,oAI,oO,oAU,oKA,pHA,oGA,pGA,pHA,oNGA,oCA,pHA,oJA,pJA",
    "=11213oNYA,oTTA,qHA,oDDA,qHA,oNNA,oTA,pHA,oDA,pDDA,pHA,oNA,oPA,pHA,oBA,pBA,pHA,oMA,oYA,oRA,oLA",
    "oVA,oSA,oHA,oLLA,hVOWEL SIGN AA,sI,tI,sU,sE,sAI,sO,sAU,hSIGN ANUSVARA,mVIRAMA,mNUKTA,mSHADDA",
    "hDANDA,iOUBLE DANDA,hWORD SEPARATOR,hSECTION MARK,hDOUBLE SECTION MARK,hABBREVIATION SIGN",
    "hSIGN SUKUN,=11280aMULTANI LETTER A,pI,pU,pE,pKA,qHA,pGA,=11288qHA,=1128ApCA,qHA,pJA,qJA",
    "=1128FpNYA,pTTA,rHA,pDDA,rDA,rHA,pNNA,pTA,qHA,pDA,qHA,pNA,pPA,qHA,pBA,=1129FqHA,pMA,pYA,pRA",
    "pLA,pVA,pSA,pHA,pRRA,qHA,iSECTION MARK,=112B0aKHUDAWADI LETTER A,sA,rI,sI,rU,sU,rE,rAI,rO,rAU",
    "rKA,sHA,rGA,sGA,sHA,rNGA,rCA,sHA,rJA,sJA,sHA,rNYA,rTTA,tHA,rDDA,tDA,rRRA,rDDHA,rNNA,rTA,sHA",
    "rDA,sHA,rNA,rPA,sHA,rBA,sBA,sHA,rMA,rYA,rRA,rLA,rVA,rSHA,sA,rHA,kSIGN ANUSVARA,kVOWEL SIGN AA",
    "vI,wI,vU,wU,vE,vAI,vO,vAU,kSIGN NUKTA,pVIRAMA,=112F0kDIGIT ZERO,qONE,qTWO,rHREE,qFOUR,rIVE",
    "qSIX,rEVEN,qEIGHT,qNINE,=11300aGRANTHA SIGN COMBINING ANUSVARA ABOVE,oANDRABINDU,nANUSVARA",
    "nVISARGA,=11305iLETTER A,qA,pI,qI,pU,qU,pVOCALIC R,xL,=1130FpEE,pAI,=11313pOO,pAU,pKA,qHA,pGA",
    "qHA,pNGA,pCA,qHA,pJA,qHA,pNYA,pTTA,rHA,pDDA,rHA,pNNA,pTA,qHA,pDA,qHA,pNA,=1132ApPA,qHA,pBA,qHA",
    "pMA,pYA,pRA,=11332pLA,qLA,=11335pVA,pSHA,qSA,qA,pHA,=1133BaCOMBINING BINDU BELOW",
    "aGRANTHA SIGN NUKTA,nAVAGRAHA,iVOWEL SIGN AA,tI,uI,tU,uU,tVOCALIC R,zdR,=11347tEE,tAI",
    "=1134BtOO,tAU,iSIGN VIRAMA,=11350iOM,=11357iAU LENGTH MARK,=1135DiSIGN PLUTA",
    "iLETTER VEDIC ANUSVARA,vDOUBLE ANUSVARA,qOCALIC RR,xLL,iVOWEL SIGN VOCALIC L,zdL",
    "=11366aCOMBINING GRANTHA DIGIT ZERO,yONE,yTWO,zHREE,yFOUR,zIVE,ySIX,=11370sLETTER A,zKA,zNA",
    "zVI,zPA,=11400aNEWA LETTER A,nA,mI,nI,mU,nU,mVOCALIC R,vR,uL,vL,mE,mAI,mO,mAU,mKA,nHA,mGA,nHA",
    "mNGA,oHA,mCA,nHA,mJA,nHA,mNYA,oHA,mTTA,oHA,mDDA,oHA,mNNA,mTA,nHA,mDA,nHA,mNA,nHA,mPA,nHA,mBA",
    "nHA,mMA,nHA,mYA,mRA,nHA,mLA,nHA,mWA,mSHA,nSA,nA,mHA,fVOWEL SIGN AA,qI,rI,qU,rU,qVOCALIC R,zR",
    "yL,zL,qE,qAI,qO,qAU,fSIGN VIRAMA,kCANDRABINDU,kANUSVARA,kVISARGA,kNUKTA,kAVAGRAHA",
    "kFINAL ANUSVARA,fOM,fSIDDHI,fDANDA,gOUBLE DANDA,fCOMMA,fGAP FILLER,fABBREVIATION SIGN",
    "fDIGIT ZERO,lONE,lTWO,mHREE,lFOUR,mIVE,lSIX,mEVEN,lEIGHT,lNINE,gOUBLE COMMA,fPLACEHOLDER MARK",
    "=1145DfINSERTION SIGN,fSANDHI MARK,fLETTER VEDIC ANUSVARA,fSIGN JIHVAMULIYA,kUPADHMANIYA",
    "=11480aTIRHUTA ANJI,iLETTER A,qA,pI,qI,pU,qU,pVOCALIC R,yR,xL,yL,pE,pAI,pO,pAU,pKA,qHA,pGA,qHA",
    "pNGA,pCA,qHA,pJA,qHA,pNYA,pTTA,rHA,pDDA,rHA,pNNA,pTA,qHA,pDA,qHA,pNA,pPA,qHA,pBA,qHA,pMA,pYA",
    "pRA,pLA,pVA,pSHA,qSA,qA,pHA,iVOWEL SIGN AA,tI,uI,tU,uU,tVOCALIC R,zdR,zcL,zdL,tE,tSHORT E,tAI",
    "tO,tSHORT O,tAU,iSIGN CANDRABINDU,nANUSVARA,nVISARGA,pRAMA,nNUKTA,nAVAGRAHA,iGVANG",
    "iABBREVIATION SIGN,iOM,=114D0iDIGIT ZERO,oONE,oTWO,pHREE,oFOUR,pIVE,oSIX,pEVEN,oEIGHT,oNINE",
    "=11580aSIDDHAM LETTER A,qA,pI,qI,pU,qU,pVOCALIC R,yR,xL,yL,pE,pAI,pO,pAU,pKA,qHA,pGA,qHA,pNGA",
    "pCA,qHA,pJA,qHA,pNYA,pTTA,rHA,pDDA,rHA,pNNA,pTA,qHA,pDA,qHA,pNA,pPA,qHA,pBA,qHA,pMA,pYA,pRA",
    "pLA,pVA,pSHA,qSA,qA,pHA,iVOWEL SIGN AA,tI,uI,tU,uU,tVOCALIC R,zdR,=115B8tE,tAI,tO,tAU",
    "iSIGN CANDRABINDU,nANUSVARA,nVISARGA,pRAMA,nNUKTA,nSIDDHAM,iDANDA,jOUBLE DANDA,iSEPARATOR DOT",
    "sBAR,iREPETITION MARK-1,y2,y3,iEND OF TEXT MARK",
    "iSECTION MARK WITH TRIDENT AND U-SHAPED ORNAMENTS,znDOTTED CRESCENTS",
    "zbRAYS AND DOTTED CRESCENTS,zrDOUBLE CRESCENTS,zrTRIPLE CRESCENTS,vDOUBLE RING,zh WITH RAYS",
    "vWITH DOUBLE CRESCENTS,zbTRIPLE CRESCENTS,zbQUADRUPLE CRESCENTS,zbSEPTUPLE CRESCENTS",
    "zbCIRCLES AND RAYS,znTWO ENCLOSURES,znFOUR ENCLOSURES,iLETTER THREE-CIRCLE ALTERNATE I",
    "qWO-CIRCLE ALTERNATE I,zmI,pALTERNATE U,iVOWEL SIGN ALTERNATE U,zfU,=11600aMODI LETTER A,nA,mI",
    "nI,mU,nU,mVOCALIC R,vR,uL,vL,mE,mAI,mO,mAU,mKA,nHA,mGA,nHA,mNGA,mCA,nHA,mJA,nHA,mNYA,mTTA,oHA",
    "mDDA,oHA,mNNA,mTA,nHA,mDA,nHA,mNA,mPA,nHA,mBA,nHA,mMA,mYA,mRA,mLA,mVA,mSHA,nSA,nA,mHA,mLLA",
    "fVOWEL SIGN AA,qI,rI,qU,rU,qVOCALIC R,zR,yL,zL,qE,qAI,qO,qAU,fSIGN ANUSVARA,kVISARGA,mRAMA",
    "kARDHACANDRA,fDANDA,gOUBLE DANDA,fABBREVIATION SIGN,fSIGN HUVA,=11650fDIGIT ZERO,lONE,lTWO",
    "mHREE,lFOUR,mIVE,lSIX,mEVEN,lEIGHT,lNINE,=11660cNGOLIAN BIRGA WITH ORNAMENT,kROTATED BIRGA",
    "kDOUBLE BIRGA WITH ORNAMENT,kTRIPLE BIRGA WITH ORNAMENT,kBIRGA WITH DOUBLE ORNAMENT",
    "kROTATED BIRGA WITH ORNAMENT,zeDOUBLE ORNAMENT,kINVERTED BIRGA,y WITH DOUBLE ORNAMENT",
    "kSWIRL BIRGA,v WITH ORNAMENT,zcDOUBLE ORNAMENT,kTURNED SWIRL BIRGA WITH DOUBLE ORNAMENT",
    "=11680aTAKRI LETTER A,oA,nI,oI,nU,oU,nE,nAI,nO,nAU,nKA,oHA,nGA,oHA,nNGA,nCA,oHA,nJA,oHA,nNYA",
    "nTTA,pHA,nDDA,pHA,nNNA,nTA,oHA,nDA,oHA,nNA,nPA,oHA,nBA,oHA,nMA,nYA,nRA,nLA,nVA,nSHA,oA,nHA",
    "nRRA,gSIGN ANUSVARA,lVISARGA,gVOWEL SIGN AA,rI,sI,rU,sU,rE,rAI,rO,rAU,gSIGN VIRAMA,lNUKTA",
    "gLETTER ARCHAIC KHA,gABBREVIATION SIGN,=116C0gDIGIT ZERO,mONE,mTWO,nHREE,mFOUR,nIVE,mSIX,nEVEN",
    "mEIGHT,mNINE,=11700aAHOM LETTER KA,nHA,mNGA,nA,mTA,mALTERNATE TA,mPA,nHA,mBA,mMA,mJA,mCHA,mTHA",
    "mRA,mLA,mSA,mNYA,mHA,mA,mDA,nHA,mGA,mALTERNATE GA,mGHA,mBHA,mJHA,mALTERNATE BA",
    "=1171DfCONSONANT SIGN MEDIAL LA,zcRA,zcLIGATING RA,fVOWEL SIGN A,rA,qI,rI,qU,rU,qE,qAW,qO,qAI",
    "rM,fSIGN KILLER,=11730fDIGIT ZERO,lONE,lTWO,mHREE,lFOUR,mIVE,lSIX,mEVEN,lEIGHT,lNINE",
    "fNUMBER TEN,nWENTY,fSIGN SMALL SECTION,lECTION,kRULAI,gYMBOL VI,fLETTER CA,mTTA,oHA,mDDA,oHA",
    "mNNA,mLLA,=11800aDOGRA LETTER A,oA,nI,oI,nU,oU,nE,nAI,nO,nAU,nKA,oHA,nGA,oHA,nNGA,nCA,oHA,nJA",
    "oHA,nNYA,nTTA,pHA,nDDA,pHA,nNNA,nTA,oHA,nDA,oHA,nNA,nPA,oHA,nBA,oHA,nMA,nYA,nRA,nLA,nVA,nSHA",
    "oSA,oA,nHA,nRRA,gVOWEL SIGN AA,rI,sI,rU,sU,rVOCALIC R,zbR,rE,rAI,rO,rAU,gSIGN ANUSVARA",
    "lVISARGA,nRAMA,lNUKTA,gABBREVIATION SIGN,=118A0aWARANG CITI CAPITAL LETTER NGAA,zcA,zcWI,zcYU",
    "zdA,zdO,zcII,zcUU,zcE,zcO,zcANG,zcGA,zcKO,zcENY,zcYUJ,zcUC,zcENN,zcODD,zcTTE,zcNUNG,zcDA,zcAT",
    "zdM,zcBU,zcPU,zcHIYO,zdOLO,zeRR,zdAR,zcSSUU,zdII,zcVIYO,mSMALL LETTER NGAA,zA,zWI,zYU,zbA,zbO",
    "zII,zUU,zE,zO,zANG,zGA,zKO,zENY,zYUJ,zUC,zENN,zODD,zTTE,zNUNG,zDA,zAT,zbM,zBU,zPU,zHIYO,zbOLO",
    "zcRR,zbAR,zSSUU,zbII,zVIYO,mDIGIT ZERO,sONE,sTWO,tHREE,sFOUR,tIVE,sSIX,tEVEN,sEIGHT,sNINE",
    "mNUMBER TEN,uWENTY,uHIRTY,tFORTY,uIFTY,tSIXTY,uEVENTY,tEIGHTY,tNINETY,=118FFmOM",
    "aDIVES AKURU LETTER A,uA,tI,uI,tU,uU,tE,=11909tO,=1190CtKA,uHA,tGA,uHA,tNGA,tCA,uHA,tJA",
    "=11915tNYA,tTTA,=11918tDDA,vHA,tNNA,tTA,uHA,tDA,uHA,tNA,tPA,uHA,tBA,uHA,tMA,tYA,uYA,tRA,tLA",
    "tVA,tSHA,uSA,uA,tHA,tLLA,tZA,mVOWEL SIGN AA,xI,yI,xU,yU,xE,=11937xAI,xO,=1193BmSIGN ANUSVARA",
    "rCANDRABINDU,rHALANTA,mVIRAMA,mPREFIXED NASAL SIGN,mMEDIAL YA,mINITIAL RA,mMEDIAL RA",
    "mSIGN NUKTA,mDOUBLE DANDA,mGAP FILLER,mEND OF TEXT MARK,=11950mDIGIT ZERO,sONE,sTWO,tHREE",
    "sFOUR,tIVE,sSIX,tEVEN,sEIGHT,sNINE,=119A0aNANDINAGARI LETTER A,uA,tI,uI,tU,uU,tVOCALIC R,zdR",
    "=119AAtE,tAI,tO,tAU,tKA,uHA,tGA,uHA,tNGA,tCA,uHA,tJA,uHA,tNYA,tTTA,vHA,tDDA,vHA,tNNA,tTA,uHA",
    "tDA,uHA,tNA,tPA,uHA,tBA,uHA,tMA,tYA,tRA,tLA,tVA,tSHA,uSA,uA,tHA,tLLA,tRRA,mVOWEL SIGN AA,xI,yI",
    "xU,yU,xVOCALIC R,zhR,=119DAxE,xAI,xO,xAU,mSIGN ANUSVARA,rVISARGA,tRAMA,rAVAGRAHA,rSIDDHAM",
    "mHEADSTROKE,mVOWEL SIGN PRISHTHAMATRA E,=11A00aZANABAZAR SQUARE LETTER A,rVOWEL SIGN I,zdUE",
    "zdU,zdE,zdOE,zdO,zdAI,zeU,zdREVERSED I,xLENGTH MARK,rLETTER KA,zHA,yGA,zHA,yNGA,yCA,zHA,yJA",
    "yNYA,yTTA,zbHA,yDDA,zbHA,yNNA,yTA,zHA,yDA,zHA,yNA,yPA,zHA,yBA,zHA,yMA,yTSA,zbHA,yDZA,zbHA,yZHA",
    "zA,y-A,yYA,yRA,yLA,yVA,ySHA,zSA,zA,yHA,yKSSA,rFINAL CONSONANT MARK,rSIGN VIRAMA,wCANDRABINDU",
    "zi WITH ORNAMENT,zd WITH ORNAMENT,wANUSVARA,wVISARGA,rCLUSTER-INITIAL LETTER RA",
    "zFINAL LETTER YA,znRA,znLA,znVA,rINITIAL HEAD MARK,rCLOSING HEAD MARK,rMARK TSHEG,wSHAD",
    "wDOUBLE SHAD,wLONG TSHEG,rINITIAL DOUBLE-LINED HEAD MARK,rCLOSING DOUBLE-LINED HEAD MARK",
    "rSUBJOINER,=11A50aSOYOMBO LETTER A,iVOWEL SIGN I,tUE,tU,tE,tO,uE,tAI,uU,tVOCALIC R,zcL",
    "oLENGTH MARK,iLETTER KA,qHA,pGA,qHA,pNGA,pCA,qHA,pJA,qHA,pNYA,pTTA,rHA,pDDA,rHA,pNNA,pTA,qHA",
    "pDA,qHA,pNA,pPA,qHA,pBA,qHA,pMA,pTSA,rHA,pDZA,pZHA,qA,p-A,pYA,pRA,pLA,pVA,pSHA,qSA,qA,pHA",
    "pKSSA,iSIGN JIHVAMULIYA,nUPADHMANIYA,iCLUSTER-INITIAL LETTER RA,zgLA,zgSHA,zhA",
    "iFINAL CONSONANT SIGN G,zeK,zeNG,zeD,zeN,zeB,zeM,zeR,zeL,zeSH,zeS,ze-A,iSIGN ANUSVARA,nVISARGA",
    "iGEMINATION MARK,iSUBJOINER,iMARK TSHEG,nSHAD,nDOUBLE SHAD,nPLUTA",
    "iHEAD MARK WITH MOON AND SUN AND TRIPLE FLAME,zpFLAME,zjN,iTERMINAL MARK-1,w2",
    "=11AB0aCANADIAN SYLLABICS NATTILIK HI,zfI,zeO,zfO,zeA,zfA,zdSHRI,zhI,zgO,zhO,zgA,zhA,tSPE,vI",
    "vO,vA,aPAU CIN HAU LETTER PA,tKA,tLA,tMA,tDA,tZA,tVA,tNGA,tHA,tGA,tKHA,tSA,tBA,tCA,tTA,uHA,tNA",
    "tPHA,tRA,tFA,tCHA,tA,tE,tI,tO,tU,uA,tIA,tFINAL P,zK,zT,zM,zN,zL,zW,zNG,zY,mRISING TONE LONG,wE",
    "mSANDHI GLOTTAL STOP,mRISING TONE LONG FINAL,yFINAL,mSANDHI GLOTTAL STOP FINAL,tTONE LONG,wE",
    "x LONG FINAL,yFINAL,mMID-LEVEL TONE,mGLOTTAL STOP VARIANT,mMID-LEVEL TONE LONG FINAL,zcFINAL",
    "mLOW-FALLING TONE LONG,zcE,mGLOTTAL STOP,mLOW-FALLING TONE LONG FINAL,zeFINAL",
    "mGLOTTAL STOP FINAL,=11C00aBHAIKSUKI LETTER A,sA,rI,sI,rU,sU,rVOCALIC R,zbR,zL,=11C0ArE,rAI,rO",
    "rAU,rKA,sHA,rGA,sHA,rNGA,rCA,sHA,rJA,sHA,rNYA,rTTA,tHA,rDDA,tHA,rNNA,rTA,sHA,rDA,sHA,rNA,rPA",
    "sHA,rBA,sHA,rMA,rYA,rRA,rLA,rVA,rSHA,sSA,sA,rHA,kVOWEL SIGN AA,vI,wI,vU,wU,vVOCALIC R,zfR,zeL",
    "=11C38vE,vAI,vO,vAU,kSIGN CANDRABINDU,pANUSVARA,pVISARGA,rRAMA,pAVAGRAHA,kDANDA,lOUBLE DANDA",
    "kWORD SEPARATOR,kGAP FILLER-1,v2,=11C50kDIGIT ZERO,qONE,qTWO,rHREE,qFOUR,rIVE,qSIX,rEVEN",
    "qEIGHT,qNINE,kNUMBER ONE,rTWO,sHREE,rFOUR,sIVE,rSIX,sEVEN,rEIGHT,rNINE,rTEN,sWENTY,sHIRTY",
    "rFORTY,sIFTY,rSIXTY,sEVENTY,rEIGHTY,rNINETY,kHUNDREDS UNIT MARK,=11C70aMARCHEN HEAD MARK",
    "iMARK SHAD,iLETTER KA,qHA,pGA,pNGA,pCA,qHA,pJA,pNYA,pTA,qHA,pDA,pNA,pPA,qHA,pBA,pMA,pTSA,rHA",
    "pDZA,pWA,pZHA,qA,p-A,pYA,pRA,pLA,pSHA,qA,pHA,pA,=11C92iSUBJOINED LETTER KA,zbHA,zGA,zNGA,zCA",
    "zbHA,zJA,zNYA,zTA,zbHA,zDA,zNA,zPA,zbHA,zBA,zMA,zTSA,zcHA,zDZA,zWA,zZHA,zbA,=11CA9zYA,zRA,zLA",
    "zSHA,zbA,zHA,zA,iVOWEL SIGN AA,tI,tU,tE,tO,iSIGN ANUSVARA,nCANDRABINDU",
    "=11D00cSARAM GONDI LETTER A,wA,vI,wI,vU,wU,vE,=11D08vAI,vO,=11D0BvAU,vKA,wHA,vGA,wHA,vNGA,vCA",
    "wHA,vJA,wHA,vNYA,vTTA,xHA,vDDA,xHA,vNNA,vTA,wHA,vDA,wHA,vNA,vPA,wHA,vBA,wHA,vMA,vYA,vRA,vLA",
    "vVA,vSHA,wSA,wA,vHA,vLLA,vKSSA,vJNYA,vTRA,oVOWEL SIGN AA,zI,zbI,zU,zbU,zVOCALIC R,=11D3AzE",
    "=11D3CzAI,zO,=11D3FzAU,oSIGN ANUSVARA,tVISARGA,tNUKTA,tCANDRA,tHALANTA,oVIRAMA,oREPHA,pA-KARA",
    "=11D50oDIGIT ZERO,uONE,uTWO,vHREE,uFOUR,vIVE,uSIX,vEVEN,uEIGHT,uNINE",
    "=11D60aGUNJALA GONDI LETTER A,wA,vI,wI,vU,wU,=11D67vEE,vAI,=11D6AvOO,vAU,vYA,vVA,vBA,wHA,vMA",
    "vKA,wHA,vTA,wHA,vLA,vGA,wHA,vDA,wHA,vNA,vCA,wHA,vTTA,xHA,vLLA,vJA,wHA,vDDA,xHA,vNGA,vPA,wHA",
    "vHA,vRA,vSA,oVOWEL SIGN AA,zI,zbI,zU,zbU,=11D90zEE,zAI,=11D93zOO,zAU,oSIGN ANUSVARA,tVISARGA",
    "oVIRAMA,oOM,=11DA0oDIGIT ZERO,uONE,uTWO,vHREE,uFOUR,vIVE,uSIX,vEVEN,uEIGHT,uNINE",
    "=11EE0aMAKASAR LETTER KA,pGA,pNGA,pPA,pBA,pMA,pTA,pDA,pNA,pCA,pJA,pNYA,pYA,pRA,pLA,pVA,pSA,pA",
    "iANGKA,iVOWEL SIGN I,tU,tE,tO,iPASSIMBANG,iEND OF SECTION,=11FB0aLISU LETTER YHA",
    "=11FC0aTAMIL FRACTION ONE THREE-HUNDRED-AND-TWENTIETH,tONE-HUNDRED-AND-SIXTIETH,tEIGHTIETH",
    "tSIXTY-FOURTH,tFORTIETH,tTHIRTY-SECOND,pTHREE EIGHTIETHS,vSIXTY-FOURTHS,pONE TWENTIETH",
    "tSIXTEENTH-1,ze2,tTENTH,tEIGHTH,pTHREE TWENTIETHS,vSIXTEENTHS,pONE FIFTH,tQUARTER,tHALF-1,y2",
    "pTHREE QUARTERS,pDOWNSCALING FACTOR KIIZH,gSIGN NEL,lCEVITU,lAAZHAAKKU,lUZHAKKU,lMUUVUZHAKKU",
    "lKURUNI,lPATHAKKU,lMUKKURUNI,lKAACU,lPANAM,mON,lVARAAKAN,lPAARAM,lKUZHI,lVELI",
    "gWET CULTIVATION SIGN,gDRY CULTIVATION SIGN,gLAND SIGN,gSALT PAN SIGN,gTRADITIONAL CREDIT SIGN",
    "sNUMBER SIGN,gCURRENT SIGN,gAND ODD SIGN,gSPENT SIGN,gTOTAL SIGN,gIN POSSESSION SIGN",
    "gSTARTING FROM SIGN,hIGN MUTHALIYA,lVAKAIYARAA,=11FFFgPUNCTUATION END OF TEXT"]

end Reconcile.Text.CharName
