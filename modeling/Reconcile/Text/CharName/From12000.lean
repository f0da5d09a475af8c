/-!
# Names of characters from U+12000 to U+1CFFF

The lines are read by `Reconcile.Text.CharName`.
-/

namespace Reconcile.Text.CharName

/-- The names of the characters from U+12000 to U+1CFFF. -/
def namesFrom12000 : List String :=
  [
    "=12000aCUNEIFORM SIGN A,q TIMES A,xBAD,xGAN2 TENU,xHA,xIGI,xLAGAR GUNU,xMUSH,xSAG,q2,qB",
    "r TIMES ASH2,yDUN3 GUNU,yGAL,zbN2 TENU,yHA,yIGI GUNU,zMIN,yLAGAB,ySHESH,yU PLUS U PLUS U,sGUNU",
    "r2,s TIMES BALAG,zGAN2 TENU,zME PLUS EN,zSHA3,zTAK4,qD,qK,r TIMES ERIN2,ySHITA PLUS GISH,qL",
    "r TIMES AL,yDIM2,yGISH,yHA,yKAD3,zI,ySHE,yUSH,rAN,rEPH,qMAR,t TIMES SHE,qN,r OVER AN",
    "sTHREE TIMES,sPLUS NAGA OPPOSING AN PLUS NAGA,zdSQUARED,rSHE,qPIN,qRAD,t TIMES KUR,rKAB,qSAL2",
    "rH,s ZIDA TENU,tKABA TENU,tOVER ASH TUG2 OVER TUG2 TUG2 OVER TUG2 PAP,zdOVER ASH",
    "zl CROSSING ASH OVER ASH OVER ASH,s2,sGAB,pBA,rD,rG3,rHAR2,rL,s OVER BAL,sAG,rR,sA2,qI",
    "r TIMES A,yGAR,yIGI GUNU,qU,r OVER BU AB,zbUN,sCROSSING BU,rLUG,u OVER BULUG,rR,s2,pDA,rG",
    "s KISIM5 TIMES A PLUS MASH,ziMAR,zhBALAG,ziI,zhGA,zj PLUS MASH,ziI,zjR2,ziUD,zhHA,zhIR",
    "zj PLUS LU,zhKAK,zhLA,ziU,zj PLUS MASH2,zjM,zhNE,zhPAP PLUS PAP,zhSI,zhTAK4,zhU2 PLUS GIR2",
    "ziSH,rM,rR,sA3,t4,qI,rB,rM,s TIMES SHE,s2,rN,s KASKAL U GUNU DISH,rSH,qU,r OVER DU,sGUNU",
    "sSHESHIG,rB,s TIMES ESH2,s2,rG,sUD,rH,rN,s3,t GUNU,y GUNU,s4,rR2,pE,q TIMES PAP",
    "rOVER E NUN OVER NUN,q2,r TIMES A PLUS HA PLUS DA,yGAR,yMI,ySAL,zHE,yU,qDIN,qGIR,qL,qN",
    "r TIMES GAN2,zd TENU,yME,sCROSSING EN,sOPPOSING EN,sSQUARED,qREN,rIN2,qSH2,qZEN,t TIMES A",
    "zc PLUS LAL,zl TIMES LAL,zcN,zbBAD,zbDUN3 GUNU,zk GUNU,zbHA,zd GUNU,zbIGI GUNU,zbKASKAL",
    "zh SQUARED,zcU3,zbLA,zdL TIMES LAL,zcI,zcU,zbU2,zcD,pGA,r GUNU,r2,s TIMES A PLUS DA PLUS HA",
    "zhHA,zhIGI,zbB2 TENU PLUS TAB,zbN,zbSH,zd2 PLUS GAL,zBAD,zcR PLUS RA,zbUR,zd PLUS RA,zDA,zbI",
    "zcM TIMES SHE,zbUB,zEL,zc PLUS LA,zbN,zc TIMES GAN2 TENU,zGAN2 TENU,zcR,zbI,zc4,zd PLUS A",
    "zcR2 PLUS SU,zHA PLUS LU PLUS ESH2,zcL,zd PLUS LA,zbI PLUS LI,zbUB2,zIGI GUNU",
    "zbSH PLUS HU PLUS ASH,zKAK,zcSKAL,zbID,zd PLUS LAL,zbU3 PLUS AN,zLA,zME PLUS EN,zbI,zNUN",
    "zd OVER NUN,zPA,zSAL,zcR,zbHE,zd PLUS TUR,zcID,zbUM,zTAK4,zU,zbD,zc PLUS DU,tOVER GA2,rBA",
    "t CROSSING GABA,rD,s OVER GAD GAR OVER GAR,rL,s GAD OVER GAD GAR OVER GAR,sAM,rM,rN,s2,t TENU",
    "uOVER GAN2,uCROSSING GAN2,rR,s3,rSHAN,qESHTIN,w TIMES KUR,qI,r TIMES E,yU,sCROSSING GI,r4",
    "s OVER GI4,tCROSSING GI4,rDIM,rR2,t GUNU,s3,t TIMES A PLUS IGI,zbGAN2 TENU,zbIGI,zbLU PLUS IGI",
    "zbPA,rSAL,sH,t CROSSING GISH,uTIMES BAD,zbTAK4,vENU,qU,r CROSSING GU,r2,s TIMES KAK",
    "zd TIMES IGI GUNU,zNUN,zSAL PLUS TUG2,tGUNU,rD,s TIMES A PLUS KUR,zKUR,tOVER GUD LUGAL,rL,rM",
    "s TIMES SHE,rR,s7,sUN,tSH,pHA,r TENU,sGUNU,rL,qI,r TIMES ASH,zc2,yBAD,yDISH,yGAD,yKIN,yNUN",
    "ySHE,yU,qU,rB2,t TIMES AN,zbHAL,zbKASKAL,zbLISH,zbUD,rL2,pI,q A,qB,qDIM,t OVER IDIM BUR",
    "zfSQUARED,qG,rI,s DIB,tRI,tOVER IGI SHIR OVER SHIR UD OVER UD,tGUNU,qL,r TIMES GAN2 TENU,r2,qM",
    "r TIMES TAK4,sCROSSING IM,sOPPOSING IM,sSQUARED,rIN,qN,qR,qSH,pKA,r TIMES A,zD,zb PLUS KU3",
    "zSH2,yBAD,zbLAG,zbR,zI,yERIN2,zSH2,yGA,zbL,zbN2 TENU,zbR,zc PLUS SHA3 PLUS A,zI,zbR2",
    "zbSH PLUS SAR,zeCROSSING GISH,zU,zbR7,yIGI,zM,yKAK,zI,zbD,yLI,zU,yME,zb PLUS DU,zhGI,zhTE,zI",
    "zb PLUS NUNUZ,yNE,zUN,yPI,yRU,ySA,zbR,zHA,zbE,zbID,zbU,zIG,zUHUR,yTAR,yU,z2,zD,zMUM TIMES PA",
    "zSH,yZI,r2,s CROSSING KA2,rB,rD2,s3,s4,s5,t OVER KAD5,rK,s TIMES IGI GUNU,rL,s TIMES BAD",
    "tCROSSING KAL,rM2,s4,rSKAL,v LAGAB TIMES U OVER LAGAB TIMES U",
    "wOVER KASKAL LAGAB TIMES U OVER LAGAB TIMES U,qESH2,qI,r TIMES BAD,yU,zD,rD,rN,rSAL,sH,sIM5",
    "v OVER KISIM5,qU,r OVER HI TIMES ASH2 KU OVER HI TIMES ASH2,r3,r4,s VARIANT FORM,r7,rL,s GUNU",
    "rN,rR,s OPPOSING KUR,rSHU2,qWU318,pLA,rGAB,u TIMES A,zd PLUS DA PLUS HA,zjGAR,zjLAL,zdL,zdN",
    "zdSH ZIDA TENU,zcBAD,zdI,zcDAR,zcEN,zcGA,zeR,zdUD,zf PLUS GUD,zcHA,zeL,zdI TIMES NUN",
    "zcIGI GUNU,zdM,ze PLUS HA,zkLU,zcKI,zeN,zdU3,zeL,zf PLUS HI PLUS A,zcLAGAB,zdISH,zdU,zeL,zcME",
    "ze PLUS EN,zdUSH,zcNE,zcSHE PLUS SUM,zeITA PLUS GISH PLUS ERIN2,zsTENU,zeU2,zg PLUS SHU2,zdUM",
    "zcTAG,zeK4,zdE PLUS A PLUS SU PLUS NA,zcU,zd PLUS A,zjU PLUS U,zd2 PLUS ASH,zdD,zdSH,vSQUARED",
    "tR,u TIMES SHE,zf PLUS SUM,vGUNU,z OVER LAGAR GUNU SHE,rHSHU,rL,s TIMES LAL,rM,s TIMES KUR",
    "zd PLUS RU,qI,rL,rMMU2,rSH,qU,r TIMES BAD,r2,s TIMES AL,zBAD,zESH2,ze TENU,zGAN2 TENU",
    "zHI TIMES BAD,zIM,zKAD2,zd3,ze PLUS ASH,zbI,zLA PLUS ASH,zcGAB,zME PLUS EN,zNE,zbU",
    "zSI PLUS ASH,zcK2 PLUS BU,zTUG2,uENU,tCROSSING LU2,tOPPOSING LU2,tSQUARED,uHESHIG,r3,rGAL",
    "u OVER LUGAL,wPPOSING LUGAL,vSHESHIG,rH,rL,rM,s OVER LUM,zc GAR OVER GAR,pMA,r TIMES TAK4",
    "sGUNU,r2,rH,rR,rSH,t2,qE,rS,qI,rN,qU,r OVER MU,rG,s GUNU,rNSUB,rRGU2,rSH,t TIMES A,zbKUR,zbZA",
    "uOVER MUSH,ze TIMES A PLUS NA,uCROSSING MUSH,t3,u TIMES A,zd PLUS DI,zcDI,vGUNU,pNA,r2,rGA",
    "t INVERTED,uTIMES SHU TENU,uOPPOSING NAGA,tR,rM NUTILLU,rM,s2,qE,r TIMES A,yUD,sSHESHIG,qI",
    "r TIMES E,r2,rM,s TIMES GAN2 TENU,zcR PLUS GAN2 TENU,rNDA2,v TIMES AN,zeSH,zg PLUS ASH,zdGUD",
    "zdME PLUS GAN2 TENU,zdNE,zeUN,zdSHE,zg PLUS A AN,znSH,zp PLUS ASH,zdU2 PLUS ASH,zeSH,rSAG,qU",
    "r11,rN,s LAGAR TIMES GAR,zgMASH,zgSAL,zj OVER NUN LAGAR TIMES SAL,zgUSH,tTENU,tOVER NUN",
    "tCROSSING NUN,zg LAGAR OVER LAGAR,sUZ,u AB2 TIMES ASHGAB,zgBI,zgDUG,zgGUD,zgIGI GUNU,zgKAD3",
    "zgLA,zgNE,zgSILA3,zgU2,vKISIM5 TIMES BI,zl U,pPA,rD,rN,rP,qESH2,qI,r TIMES A,zB,yBI,zU,yE,yI",
    "zB,yU,z2,sCROSSING PI,rRIG,u TIMES KAL,zcUD,zcZA,vOPPOSING PIRIG,pRA,rB,qI,qU,pSA,rG NUTILLU",
    "rG,s TIMES A,zDU,zcB,zHA,zKAK,zbUR,zLUM,zMI,zNUN,zSAL,zbHID,zTAB,zU2,zbB,zbM,zbR,zbSH",
    "tOVER SAG,tGUNU,rL,s LAGAB TIMES ASH2,rNGA2,rR,qHA,s3,t TIMES A,zbBAD,zbGISH,zbNE,zbSHU2,zbTUR",
    "zbU,zc PLUS A,s6,sB6,sR2,rE,s HU,tOVER SHE GAD OVER GAD GAR OVER GAR",
    "zdTAB OVER TAB GAR OVER GAR,sG9,sN,sSH,u2,uLAM,rID,t TIMES A,zbIM,sM,t TIMES A,zbBAL,zcULUG",
    "zbDIN,zbGAR,zbIGI,ze GUNU,zbKUSHU2,zbLUL,zbMUG,zbSAL,sNIG,sR,t TENU,uOVER SHIR BUR OVER BUR",
    "sTA,rU,s OVER INVERTED SHU,s2,sBUR,qI,r GUNU,rG,s4,t OVER SIG4 SHU2,rK2,rLA3,qU,r OVER SU,rD",
    "s2,rHUR,rM,sASH,rR,s9,pTA,r ASTERISK,sTIMES HI,yMI,sGUNU,rB",
    "s OVER TAB NI OVER NI DISH OVER DISH,tSQUARED,rG,s TIMES BI,zGUD,zSHE,zcU,zTUG2,zUD,rK4,rR,qE",
    "r GUNU,qI,r TENU,rL,rR,s TIMES TAK4,tOVER TIR,zc GAD OVER GAD GAR OVER GAR,qU,rG2,rK,rM,rR",
    "s OVER TUR ZA OVER ZA,pU,q GUD,rU U,rOVER U PA OVER PA GAR OVER GAR,ySUR OVER SUR",
    "yU REVERSED OVER U REVERSED,q2,qB,qD,r KUSHU2,sTIMES BAD,yMI,yU PLUS U PLUS U,zo GUNU,sGUNU",
    "sSHESHIG,z TIMES BAD,rUG,qM,r TIMES LAGAB,yME PLUS DA,ySHA3,yU,rBIN,rUM,t TIMES KASKAL,zbPA,qN",
    "r GUNU,qR,r CROSSING UR,sSHESHIG,r2,s TIMES A PLUS HA,zhNA,zbL,zHA,zNUN,zU2,zc PLUS ASH,ziBI",
    "r4,rI,s3,rU,s TIMES A,zbSHGAB,zBAR,zDUN,zGA,zcL,zcN2 TENU,zcR,zbU,zHA,zIGI,zbM,zbSH,zKI,zLUM",
    "zMIN,zPA,zSHE,zbIG4,zTU,zU PLUS GUD,zbD,zbRUDA,sDA,u TIMES U,qSH,s TIMES A,zKU,zcR,zTAK4,sX,s2",
    "sUMX,qTUKI,qZ3,s TIMES KASKAL,rU,pZA,r TENU,sSQUARED TIMES KUR,rG,rMX,qE2,qI,r OVER ZI,r3,rB",
    "s KABA TENU,rG,rZ2,qU,r5,s TIMES A,rBUR,rM,pKAP ELAMITE,pAB TIMES NUN,r2 TIMES A",
    "qMAR TIMES KUG,pDAG KISIM5 TIMES U2 PLUS MASH,s3,qISH PLUS SHU,qUB TIMES SHE,pEZEN TIMES GUD",
    "zbSHE,pGA2 TIMES AN PLUS KAK PLUS A,zbSH2,qE22,qIG,pHUSH,pKA TIMES ANSHE,zSH3,yGISH,zUD",
    "yHI TIMES ASH2,yLUM,yPA,ySHUL,yTU,yUR2,pLAGAB TIMES GI,qU2 SHESHIG TIMES BAD",
    "tTIMES ESH2 PLUS LAL,zSHU,pMESH,qUSH3 TIMES ZA,pNA4,qIN,s9,sDA2 TIMES BAL,zdGI",
    "qU11 ROTATED NINETY DEGREES,pPESH2 ASTERISK,qIR2,pSAG TIMES IGI GUNU,pTI2,pUM TIMES ME,q U",
    "=12400kNUMERIC SIGN TWO ASH,yHREE ASH,xFOUR ASH,yIVE ASH,xSIX ASH,yEVEN ASH,xEIGHT ASH",
    "xNINE ASH,xTHREE DISH,xFOUR DISH,yIVE DISH,xSIX DISH,yEVEN DISH,xEIGHT DISH,xNINE DISH,xFOUR U",
    "yIVE U,xSIX U,yEVEN U,xEIGHT U,xNINE U,xONE GESH2,xTWO GESH2,yHREE GESH2,xFOUR GESH2",
    "yIVE GESH2,xSIX GESH2,yEVEN GESH2,xEIGHT GESH2,xNINE GESH2,xONE GESHU,xTWO GESHU,yHREE GESHU",
    "xFOUR GESHU,yIVE GESHU,xTWO SHAR2,yHREE SHAR2,zj VARIANT FORM,xFOUR SHAR2,yIVE SHAR2",
    "xSIX SHAR2,yEVEN SHAR2,xEIGHT SHAR2,xNINE SHAR2,xONE SHARU,xTWO SHARU,yHREE SHARU",
    "zj VARIANT FORM,xFOUR SHARU,yIVE SHARU,xSHAR2 TIMES GAL PLUS DISH,ztMIN,xONE BURU,xTWO BURU",
    "yHREE BURU,zi VARIANT FORM,xFOUR BURU,yIVE BURU,xTHREE VARIANT FORM ESH16,zu21",
    "xFOUR VARIANT FORM LIMMU,zv4,zv A,zwB,xSIX VARIANT FORM ASH9,yEVEN VARIANT FORM IMIN3,zv A,zwB",
    "xEIGHT VARIANT FORM USSU,zv3,xNINE VARIANT FORM ILIMMU,zw3,zw4,zw A,xTWO ASH TENU",
    "yHREE ASH TENU,xFOUR ASH TENU,yIVE ASH TENU,xSIX ASH TENU,xONE BAN2,xTWO BAN2,yHREE BAN2",
    "xFOUR BAN2,zh VARIANT FORM,yIVE BAN2,zh VARIANT FORM,xNIGIDAMIN,zeESH,xONE ESHE3,xTWO ESHE3",
    "xONE THIRD DISH,xTWO THIRDS DISH,xFIVE SIXTHS DISH,xONE THIRD VARIANT FORM A",
    "xTWO THIRDS VARIANT FORM A,xONE EIGHTH ASH,zcQUARTER ASH,yLD ASSYRIAN ONE SIXTH,zpQUARTER",
    "yNE QUARTER GUR,zcHALF GUR,xELAMITE ONE THIRD,zgTWO THIRDS,zgFORTY,zhIFTY,xFOUR U VARIANT FORM",
    "yIVE U VARIANT FORM,xSIX U VARIANT FORM,yEVEN U VARIANT FORM,xEIGHT U VARIANT FORM",
    "xNINE U VARIANT FORM,=12470kPUNCTUATION SIGN OLD ASSYRIAN WORD DIVIDER,zcVERTICAL COLON",
    "zcDIAGONAL COLON,zlTRICOLON,zlQUADCOLON,=12480kSIGN AB TIMES NUN TENU,ySHU2,qD TIMES ESH2",
    "pBAD TIMES DISH TENU,rHAR2 TIMES AB2,zdNI,zdZA,qU OVER BU TIMES NA2,pDA TIMES TAK4",
    "rG TIMES KUR,qIM TIMES IGI,zU U U,s2 TIMES UD,qUG TIMES ANSHE,zbSH,zd AT LEFT,zDIN,zbUN,zERIN2",
    "zGA,zbI,zcR2 GUNU,zcSH,zHA,zbI,zIGI GUNU,zKASKAL,zbUR,zcSHU2,zg PLUS KASKAL,zLAK-020,zcM",
    "zd TIMES KUR,zbUH PLUS GISH,zMASH,zbES,zbI,zNI,zPI,zSHE,zbI GUNU,pE2 TIMES KUR,yPAP,qRIN2 X",
    "qSH2 CROSSING ESH2,qZEN SHESHIG TIMES ASH,zjHI,zjIGI GUNU,zjLA,zlL,zjME,zlS,zjSU,uTIMES SU",
    "pGA2 TIMES BAHAR2,zDIM GUNU,zbUG TIMES IGI GUNU,zkKASKAL,zEREN,zGA,zcR PLUS DI,zjNE,zHA PLUS A",
    "zKUSHU2 PLUS KASKAL,zLAM,zd TIMES KUR,zbUH,zMUSH,zNE,zc PLUS E2,ziGI,zSHIM,zZIZ2",
    "rBA ROTATED NINETY DEGREES,qESHTIN TIMES U,qISH TIMES GISH CROSSING GISH,qU2 TIMES IGI GUNU",
    "rD PLUS GISH TIMES TAK4,pHA TENU GUNU,qI TIMES ASH OVER HI TIMES ASH,pKA TIMES BU,yKA,yU U U",
    "zR,pLAGAB TIMES ZU OVER ZU,rK-003,u21,v5,u30,u50,v1,u62,u79 OVER LAK-079 GUNU,u80",
    "v1 OVER LAK-081,u92,t130,u42,t210,v9,u20,v5,v8,u38,u65,v6,t343,v7,v8,u83,v4,u90,t441,v9",
    "w TIMES GU,zeIGI,zePAP PLUS LU3,znPAP PLUS LU3,zeU2 PLUS BA,u50,v7,u70,u83,u90,v2,v3,v5,t550",
    "t608,u17,w TIMES ASH,zeBAD,zeDUN3 GUNU GUNU,zeKU3,zeLA,zeTAR,zfE,zeU2,zfD,zfRUDA,u36,u48",
    "w TIMES DUB,zeGA,zeIGI,zh GUNU,zeNI,zePAP PLUS PAP PLUS LU3,zeSHESH PLUS KI,zeUD,zfRUDA,t724",
    "u49,qU2 GUNU TIMES ASH,tTIMES DISH,zHAL,zPAP,zd PLUS PAP PLUS LU3,zTAK4,pMI PLUS ZA7",
    "qUSH OVER MUSH TIMES GA,zlKAK,pNINDA2 TIMES DIM GUNU,zdGISH,zeUL,zdHI,zdKESH2,zdLAK-050,zdMASH",
    "zdPAP PLUS PAP,zdU,ze PLUS U,zeRUDA,pSAG GUNU TIMES HA,tTIMES EN,zSHE AT LEFT,zTAK4,qHA6 TENU",
    "rE OVER SHE,tPLUS HUB2,yNAM2,ySAR,rU2 PLUS DUG TIMES NI,zE2 TIMES AN,qI TIMES TAK4",
    "pTAK4 PLUS SAG,qUM TIMES GAN2 TENU,zTHREE DISH,pUR2 INVERTED,tTIMES UD,rU TIMES DARA3,zLAK-668",
    "zbU3,pZA7,qU OVER ZU PLUS SAR,r5 TIMES THREE DISH TENU,=12F90bYPRO-MINOAN SIGN CM001,w2,w4,w5",
    "w6,w7,w8,w9,v10,w1,w2,xB,w3,w5,w7,w9,v21,w3,w4,w5,w6,w7,w8,w9,v30,w3,w4,w5,w6,w7,w8,w9,v40,w1",
    "w4,w6,w7,w9,v50,w1,w2,w3,w4,w5,w6,w8,w9,v60,w1,w2,w3,w4,w6,w7,w8,w9,v70,w1,w2,w3,w4,w5,xB,w6",
    "w8,w9,v80,w1,w2,w3,w4,w5,w6,w7,w8,w9,v90,w1,w2,w4,w5,w6,w7,w8,w9,u100,w1,w2,w3,w4,w5,w7,w8,w9",
    "v10,w2,w4,u301,w2,=13000aEGYPTIAN HIEROGLYPH A001,x2,x3,x4,x5,yA,x6,yA,yB,x7,x8,x9,w10,x1,x2",
    "x3,x4,yA,x5,x6,x7,yA,x8,x9,w20,x1,x2,x3,x4,x5,x6,x7,x8,x9,w30,x1,x2,yA,x3,x4,x5,x6,x7,x8,x9",
    "w40,yA,x1,x2,yA,x3,yA,x4,x5,yA,x6,x7,x8,x9,w50,x1,x2,x3,x4,x5,x6,x7,x8,x9,w60,x1,x2,x3,x4,x5",
    "x6,x7,x8,x9,w70,uB001,x2,x3,x4,x5,yA,x6,x7,x8,x9,uC001,x2,yA,yB,yC,x3,x4,x5,x6,x7,x8,x9,w10,yA",
    "x1,x2,x3,x4,x5,x6,x7,x8,x9,w20,x1,x2,x3,x4,uD001,x2,x3,x4,x5,x6,x7,x8,yA,x9,w10,x1,x2,x3,x4,x5",
    "x6,x7,x8,x9,w20,x1,x2,x3,x4,x5,x6,x7,yA,x8,x9,w30,x1,yA,x2,x3,x4,yA,x5,x6,x7,x8,x9,w40,x1,x2",
    "x3,x4,x5,x6,yA,x7,x8,yA,x9,w50,yA,yB,yC,yD,yE,yF,yG,yH,yI,x1,x2,yA,x3,x4,yA,x5,x6,x7,x8,x9,w60",
    "x1,x2,x3,x4,x5,x6,x7,yA,yB,yC,yD,yE,yF,yG,yH,uE001,x2,x3,x4,x5,x6,x7,x8,yA,x9,yA,w10,x1,x2,x3",
    "x4,x5,x6,yA,x7,yA,x8,x9,w20,yA,x1,x2,x3,x4,x5,x6,x7,x8,yA,x9,w30,x1,x2,x3,x4,yA,x6,x7,x8,uF001",
    "yA,x2,x3,x4,x5,x6,x7,x8,x9,w10,x1,x2,x3,yA,x4,x5,x6,x7,x8,x9,w20,x1,yA,x2,x3,x4,x5,x6,x7,x8,x9",
    "w30,x1,yA,x2,x3,x4,x5,x6,x7,yA,x8,yA,x9,w40,x1,x2,x3,x4,x5,yA,x6,yA,x7,yA,x8,x9,w50,x1,yA,yB",
    "yC,x2,x3,uG001,x2,x3,x4,x5,x6,yA,x7,yA,yB,x8,x9,w10,x1,yA,x2,x3,x4,x5,x6,x7,x8,x9,w20,yA,x1,x2",
    "x3,x4,x5,x6,yA,x7,x8,x9,w30,x1,x2,x3,x4,x5,x6,yA,x7,yA,x8,x9,w40,x1,x2,x3,yA,x4,x5,yA,x6,x7,x8",
    "x9,w50,x1,x2,x3,x4,uH001,x2,x3,x4,x5,x6,yA,x7,x8,uI001,x2,x3,x4,x5,yA,x6,x7,x8,x9,yA,w10,yA,x1",
    "yA,x2,x3,x4,x5,uK001,x2,x3,x4,x5,x6,x7,x8,uL001,x2,yA,x3,x4,x5,x6,yA,x7,x8,uM001,yA,yB,x2,x3",
    "yA,x4,x5,x6,x7,x8,x9,w10,yA,x1,x2,yA,yB,yC,yD,yE,yF,yG,yH,x3,x4,x5,yA,x6,yA,x7,yA,x8,x9,w20,x1",
    "x2,yA,x3,x4,yA,x5,x6,x7,x8,yA,x9,w30,x1,yA,x2,x3,yA,yB,x4,x5,x6,x7,x8,x9,w40,yA,x1,x2,x3,x4",
    "uN001,x2,x3,x4,x5,x6,x7,x8,x9,w10,x1,x2,x3,x4,x5,x6,x7,x8,yA,yB,x9,w20,x1,x2,x3,x4,x5,yA,x6,x7",
    "x8,x9,w30,x1,x2,x3,yA,x4,yA,x5,yA,x6,x7,yA,x8,x9,w40,x1,x2,vL001,y2,y3,y4,y5,zA,y6,y7,y8,y9",
    "x10,y1,y2,y3,y4,y5,y6,y7,zA,y8,y9,x20,vU001,y2,y3,y4,y5,y6,y7,y8,y9,x10,zA,y1,zA,y2,y3,y4,y5",
    "y6,y7,y8,zA,y9,x20,y1,y2,zA,uO001,yA,x2,x3,x4,x5,yA,x6,yA,yB,yC,yD,yE,yF,x7,x8,x9,w10,yA,yB,yC",
    "x1,x2,x3,x4,x5,x6,x7,x8,x9,yA,w20,yA,x1,x2,x3,x4,yA,x5,yA,x6,x7,x8,x9,yA,w30,yA,x1,x2,x3,yA,x4",
    "x5,x6,yA,yB,yC,yD,x7,x8,x9,w40,x1,x2,x3,x4,x5,x6,x7,x8,x9,w50,yA,yB,x1,uP001,yA,x2,x3,yA,x4,x5",
    "x6,x7,x8,x9,w10,x1,uQ001,x2,x3,x4,x5,x6,x7,uR001,x2,yA,x3,yA,yB,x4,x5,x6,x7,x8,x9,w10,yA,x1,x2",
    "x3,x4,x5,x6,yA,x7,x8,x9,w20,x1,x2,x3,x4,x5,x6,x7,x8,x9,uS001,x2,yA,x3,x4,x5,x6,yA,x7,x8,x9,w10",
    "x1,x2,x3,x4,yA,yB,x5,x6,x7,yA,x8,x9,w20,x1,x2,x3,x4,x5,x6,yA,yB,x7,x8,x9,w30,x1,x2,x3,x4,x5,yA",
    "x6,x7,x8,x9,w40,x1,x2,x3,x4,x5,x6,uT001,x2,x3,yA,x4,x5,x6,x7,yA,x8,yA,x9,yA,w10,x1,yA,x2,x3,x4",
    "x5,x6,yA,x7,x8,x9,w20,x1,x2,x3,x4,x5,x6,x7,x8,x9,w30,x1,x2,yA,x3,yA,x4,x5,x6,uU001,x2,x3,x4,x5",
    "x6,yA,yB,x7,x8,x9,w10,x1,x2,x3,x4,x5,x6,x7,x8,x9,w20,x1,x2,x3,yA,x4,x5,x6,x7,x8,x9,yA,w30,x1",
    "x2,yA,x3,x4,x5,x6,x7,x8,x9,w40,x1,x2,uV001,yA,yB,yC,yD,yE,yF,yG,yH,yI,x2,yA,x3,x4,x5,x6,x7,yA",
    "yB,x8,x9,w10,x1,yA,yB,yC,x2,yA,yB,x3,x4,x5,x6,x7,x8,x9,w20,yA,yB,yC,yD,yE,yF,yG,yH,yI,yJ,yK,yL",
    "x1,x2,x3,yA,x4,x5,x6,x7,x8,yA,x9,yA,w30,yA,x1,yA,x2,x3,yA,x4,x5,x6,x7,yA,x8,x9,w40,yA,uW001,x2",
    "x3,yA,x4,x5,x6,x7,x8,x9,yA,w10,yA,x1,x2,x3,x4,yA,x5,x6,x7,yA,x8,yA,x9,w20,x1,x2,x3,x4,yA,x5",
    "uX001,x2,x3,x4,yA,yB,x5,x6,yA,x7,x8,yA,uY001,yA,x2,x3,x4,x5,x6,x7,x8,uZ001,x2,yA,yB,yC,yD,x3",
    "yA,yB,x4,yA,x5,yA,x6,x7,x8,x9,w10,x1,x2,x3,x4,x5,yA,yB,yC,yD,yE,yF,yG,yH,yI,x6,yA,yB,yC,yD,yE",
    "yF,yG,yH,uAA001,y2,y3,y4,y5,y6,y7,zA,zB,y8,y9,x10,y1,y2,y3,y4,y5,y6,y7,y8,y9,x20,y1,y2,y3,y4",
    "y5,y6,y7,y8,y9,x30,y1,y2,=13430uVERTICAL JOINER,uHORIZONTAL JOINER,uINSERT AT TOP START",
    "zfBOTTOM START,zfTOP END,zfBOTTOM END,uOVERLAY MIDDLE,uBEGIN SEGMENT,uEND SEGMENT",
    "=14400aANATOLIAN HIEROGLYPH A001,y2,y3,y4,y5,y6,y7,y8,y9,x10,zA,y1,y2,y3,y4,y5,y6,y7,y8,y9,x20",
    "y1,y2,y3,y4,y5,y6,zA,y7,y8,y9,x30,y1,y2,y3,y4,y5,y6,y7,y8,y9,zA,x40,y1,zA,y2,y3,y4,y5,zA,y6,zA",
    "zB,y7,y8,y9,x50,y1,y2,y3,y4,y5,y6,y7,y8,y9,x60,y1,y2,y3,y4,y5,y6,zA,zB,zC,y7,y8,y9,x70,y1,y2",
    "y3,y4,y5,y6,y7,y8,y9,x80,y1,y2,y3,y4,y5,y6,y7,y8,y9,x90,y1,y2,y3,y4,y5,y6,y7,zA,y8,zA,y9,w100",
    "zA,y1,zA,y2,zA,y3,y4,zA,zB,zC,y5,zA,zB,y6,y7,zA,zB,zC,y8,y9,x10,zA,zB,y1,y2,y3,y4,y5,zA,y6,y7",
    "y8,y9,x20,y1,y2,y3,y4,y5,zA,y6,y7,y8,y9,x30,y1,y2,y3,y4,y5,zA,y6,y7,y8,y9,x40,y1,y2,y3,y4,y5",
    "y6,y7,y8,y9,x50,y1,y2,y3,y4,y5,y6,y7,y8,y9,x60,y1,y2,y3,y4,y5,y6,y7,y8,y9,x70,y1,y2,y3,y4,y5",
    "y6,y7,y8,y9,x80,y1,y2,y3,y4,y5,y6,y7,y8,y9,x90,y1,y2,y3,y4,y5,y6,y7,y8,y9,w200,y1,y2,zA,zB,y3",
    "y4,y5,y6,y7,zA,y8,y9,zA,x10,y1,y2,y3,y4,y5,zA,y6,zA,y7,y8,y9,x20,y1,y2,y3,y4,y5,y6,y7,zA,y8,y9",
    "x30,y1,y2,y3,y4,y5,y6,y7,y8,y9,x40,y1,y2,y3,y4,y5,y6,y7,y8,y9,x50,y1,y2,y3,y4,y5,y6,y7,y8,y9",
    "x60,y1,y2,y3,y4,y5,y6,y7,zA,y8,y9,x70,y1,y2,y3,y4,y5,y6,y7,y8,y9,x80,y1,y2,y3,y4,y5,y6,y7,y8",
    "y9,zA,x90,y1,y2,y3,y4,zA,y5,y6,y7,y8,y9,zA,w300,y1,y2,y3,y4,y5,y6,y7,y8,y9,zA,x10,y1,y2,y3,y4",
    "y5,y6,y7,y8,y9,x20,y1,y2,y3,y4,y5,y6,y7,y8,y9,zA,x30,y1,y2A,zB,zC,y3,y4,y5,y6,zA,zB,zC,y7,y8",
    "y9,x40,y1,y2,y3,y4,y5,y6,y7,y8,y9,x50,y1,y2,y3,y4,y5,y6,y7,y8,y9,zA,x60,y1,y2,y3,y4,zA,y5,y6",
    "y7,y8,zA,y9,x70,y1,zA,y2,y3,y4,y5,y6,y7,y8,y9,x80,y1,zA,y2,y3 RA OR RI,zA,y4,y5,y6,zA,y7,y8,y9",
    "x90,y1,y2,y3 EIGHT,y4,y5,y6,y7,y8,y9,w400,y1,y2,y3,y4,y5,y6,y7,y8,y9,x10 BEGIN LOGOGRAM MARK",
    "zA END LOGOGRAM MARK,y1,y2,y3,y4,y5,y6,y7,y8,y9,x20,y1,y2,y3,y4,y5,y6,y7,y8,y9,x30,y1,y2,y3,y4",
    "y5,y6,y7,y8,y9,x40,y1,y2,y3,y4,y5,y6,y7,y8,y9,x50,zA,y1,y2,y3,y4,y5,y6,y7,zA,y8,y9,x60,y1,y2",
    "y3,y4,y5,y6,y7,y8,y9,x70,y1,y2,y3,y4,y5,y6,y7,y8,y9,x80,y1,y2,y3,y4,y5,y6,y7,y8,y9,x90,y1,y2",
    "y3,y4,y5,y6,y7,w501,y2,y3,y4,y5,y6,y7,y8,y9,x10,y1,y2,y3,y4,y5,y6,y7,y8,y9,x20,y1,y2,y3,y4,y5",
    "y6,y7,y8,y9,x30,=16800aBAMUM LETTER PHASE-A NGKUE MFON,vGBIEE FON,vPON MFON PIPAEMGBIEE,zlBA",
    "vNAA MFON,vSHUENSHUET,vTITA MFON,vNZA MFON,vSHINDA PA NJI,vPON PA NJI PIPAEMGBIEE,znBA",
    "vMAEMBGBIEE,vTU MAEMBA,vNGANGU,vMAEMVEUX,xNSUAE,wVEUAENGAM,vSEUNYAM,vNTOQPEN,vKEUKEUTNDA",
    "vNKINDI,vSUU,vNGKUENZEUM,vLAPAQ,wET KUT,vNTAP MFAA,vMAEKEUP,vPASHAE,vGHEUAERAE,vPAMSHAE",
    "vMON NGGEUAET,vNZUN MEUT,vU YUQ NAE,vGHEUAEGHEUAE,vNTAP NTAA,vSISA,vMGBASA,wEUNJOMNDEUQ",
    "wOOMPUQ,vKAFA,vPA LEERAEWA,vNDA LEERAEWA,vPET,vMAEMKPEN,vNIKA,vPUP,vTUAEP,vLUAEP,vSONJAM",
    "vTEUTEUWEN,vMAENYI,vKET,vNDAANGGEUAET,vKUOQ,vMOOMEUT,vSHUM,vLOMMAE,vFIRI,vROM,vKPOQ,vSOQ",
    "vMAP PIEET,vSHIRAE,vNTAP,vSHOQ NSHUT YUM,vNYIT MONGKEUAEQ,vPAARAE,vNKAARAE,vUNKNOWN,vNGGEN",
    "vMAESI,vNJAM,vMBANYI,vNYET,vTEUAEN,vSOT,vPAAM,vNSHIEE,vMAEM,vNYI,vKAQ,vNSHA,vVEE,vLU,vNEN,wAQ",
    "vMBAQ,tB NSHUET,vTU MAEMGBIEE,vSIEE,wET TU,vLOM NTEUM,vMBA MAELEE,vKIEEM,vYEURAE,vMBAARAE,vKAM",
    "vPEESHI,vYAFU LEERAEWA,vLAM NSHUT NYAM,vNTIEE SHEUOQ,wDU NJAA,vGHEUGHEUAEM,vPIT,vTU NSIEE",
    "vSHET NJAQ,yUAEQTU,vMFON TEUAEQ,wBIT MBAAKET,vNYI NTEUM,vKEUPUQ,vGHEUGHEN,vKEUYEUX,vLAANAE",
    "vPARUM,vVEUM,vNGKINDI MVOP,xGEU MBU,vWUAET,vSAKEUAE,vTAAM,vMEUQ,vNGGUOQ,zc LARGE,vMFIYAQ,vSUE",
    "vMBEURI,wONTIEEN,vNYAEMAE,vPUNGAAM,vMEUT NGGEET,vFEUX,vMBUOQ,vFEE,vKEUAEM,vMA NJEUAENA,zbUQA",
    "vLET,vNGGAAM,wSEN,vMA,vKIQ,vNGOM,tC NGKUE MAEMBA,wZA,vYUM,vWANGKUOQ,vNGGEN,wDEUAEREE,wGKAQ",
    "vGHARAE,vMBEEKEET,vGBAYI,vNYIR MKPARAQ MEUN,wTU MBIT,vMBEUM,vPIRIEEN,vNDOMBU",
    "vMBAA CABBAGE-TREE,vKEUSHEUAEP,vGHAP,vKEUKAQ,vYU MUOMAE,vNZEUM,vMBUE,vNSEUAEN,vMBIT,vYEUQ",
    "vKPARAQ,wAA,vSEUX,vNDIDA,vTAASHAE,vNJUEQ,vTITA YUE,vSUAET,vNGGUAEN NYAM,vVEUX,vNANSANAQ",
    "vMA KEUAERI,vNTAA,wGGUON,vLAP,vMBIRIEEN,wGBASAQ,vNTEUNGBA,vTEUTEUX,vNGGUM,vFUE,vNDEUT,wSA,xHAQ",
    "vBUNG,vVEUAEPEN,vMBERAE,vRU,vNJAEM,vLAM,vTITUAEP,vNSUOT NGOM,wJEEEE,vKET,vNGGU,vMAESI,wBUAEM",
    "vLU,vKUT,vNJAM,wGOM,vWUP,vNGGUEET,wSOM,wTEN,vKUOP NKAARAE,vNSUN,wDAM,vMA NSIEE,vYAA,vNDAP",
    "vSHUEQ,wETFON,vMBI,wAEMBA,wBANYI,vKEUSEUX,vMBEUX,vKEUM,vMBAA PICKET,vYUWOQ,vNJEUX,vMIEE,wUAE",
    "vSHIQ,vKEN LAW,zFATIGUE,vNGAQ,wAQ,vLIQ,vPIN,wEN,vTET,tD MBUO,vWAP,vNJI,vMFON,vNJIEE,vLIEE",
    "vNJEUT,wSHEE,wGGAAMAE,wYAM,vWUAEN,vNGKUN,vSHEE,vNGKAP,vKEUAETMEUN,vTEUT,vSHEUAE,vNJAP,vSUE",
    "vKET,vYAEMMAE,vKUOM,vSAP,vMFEUT,vNDEUX,vMALEERI,wEUT,vSEUAEQ,vYEN,vNJEUAEM,vKEUOT MBUAE",
    "vNGKEURI,vTU,vGHAA,vNGKYEE,vFEUFEUAET,vNDEE,vMGBOFUM,vLEUAEP,vNDON,vMONI,wGBEUN,vPUUT,vMGBIEE",
    "wFO,vLUM,vNSIEEP,vMBAA,vKWAET,vNYET,vTEUAEN,vSOT,vYUWOQ,vKEUM,vRAEM,vTEEEE,vNGKEUAEQ,vMFEUAE",
    "vNSIEET,vKEUP,vPIP,wEUTAE,vNYUE,vLET,vNGGAAM,vMFIEE,vNGGWAEN,vYUOM,vPAP,vYUOP,vNDAM,wTEUM",
    "vSUAE,vKUN,vNGGEUX,xKIEE,vTUOT,vMEUN,vKUQ,vNSUM,vTEUN,vMAENJET,vNGGAP,vLEUM,vNGGUOM,wSHUT",
    "wJUEQ,vGHEUAE,vKU,vREN OLD,vTAE,wOQ,vNYI,vRII,vLEEEE,vMEEEE,vM,vSUU,vMU,vSHII,xEUX,vKYEE,vNU",
    "vSHU,vNTEE,vPEE,vNI,vSHOQ,vPUQ,vMVOP,vLOQ,vREN MUCH,vTI,vNTUU,vMBAA SEVEN,vSAQ,vFAA,tE NDAP",
    "vTOON,vMBEUM,vLAP,vVOM,vLOON,vPAA,vSOM,vRAQ,vNSHUOP,wDUN,vPUAE,vTAM,vNGKA,vKPEUX,vWUO,vSEE",
    "vNGGEUAET,vPAAM,vTOO,vKUOP,vLOM,vNSHIEE,wGOP,vMAEM,vNGKEUX,xOQ,wSHUE,vRIMGBA,vNJEUX,vPEEM,vSAA",
    "vNGGURAE,vMGBA,vGHEUX,vNGKEUAEM,wJAEMLI,vMAP,vLOOT,vNGGEEEE,wDIQ,vTAEN NTEUM,vSET,vPUM",
    "vNDAA SOFTNESS,wGGUAESHAE NYAM,vYIEE,vGHEUN,vTUAE,vYEUAE,vPO,vTUMAE,vKEUAE,vSUAEN,vTEUAEQ",
    "vVEUAE,vWEUX,vLAAM,vPU,vTAAQ,vGHAAMAE,vNGEUREUT,vSHEUAEQ,vMGBEN,wBEE,vNZAQ,wKOM,vGBET,vTUM",
    "vKUET,vYAP,vNYI CLEAVER,vYIT,vMFEUQ,vNDIAQ,vPIEEQ,vYUEQ,vLEUAEM,vFUE,vGBEUX,vNGKUP,vKET,vMAE",
    "vNGKAAMI,vGHET,vFA,vNTUM,vPEUT,vYEUM,vNGGEUAE,wYI BETWEEN,wZUQ,vPOON,vMIEE,vFUET,vNAE,vMUAE",
    "vGHEUAE,vFU I,vMVI,vPUAQ,vNGKUM,vKUT,vPIET,vNTAP,vYEUAET,vNGGUP,vPA PEOPLE,vFU CALL,wOM,vNJEE",
    "vA,vTOQ,vO,vI,vLAQ,vPA PLURAL,vTAA,xQ,vNDAA MY HOUSE,vSHIQ,vYEUX,vNGUAE,vYUAEN,wOQ SWIMMING",
    "zCOVER,wUQ,xN,vKEUX,vPEUX,vNJEE EPOCH,vPUE,vWUE,vFEE,vVEE,vLU,vMI,vREUX,wAE,vNGUAET,xA,vSHO,yQ",
    "vFU REMEDY,vNA,vPI,vLOQ,vKO,vMEN,wA,xQ,vTEU,vKI,vMON,vTEN,vFAQ,vGHOM,tF KA,vU,vKU,vEE,vREE",
    "vTAE,vNYI,vLA,vRII,xEE,vMEEEE,vTAA,vNDAA,wJAEM,vM,vSUU,wHII,wI,wEUX,vKYEE,wET,vNUAE,wU,wJUAE",
    "vYOQ,vSHU,vYA,vNSHA,vPEUX,vNTEE,vWUE,vPEE,vRU,vNI,vREUX,vKEN,vNGKWAEN,xGA,vSHO,vPUAE,vFOM,vWA",
    "vLI,wOQ,vKO,vMBEN,vREN,vMA,wO,wBAA,vTET,vKPA,vSAMBA,vVUEQ,=16A40aMRO LETTER TA,lNGI,lYO,lMIM",
    "lBA,lDA,lA,lPHI,lKHAI,lHAO,lDAI,lCHU,lKEAAE,lOL,lMAEM,lNIN,lPA,lOO,lO,lRO,lSHI,lTHEA,lEA,lWA",
    "lE,lKO,lLAN,mA,lHAI,lRI,lTEK,=16A60eDIGIT ZERO,kONE,kTWO,lHREE,kFOUR,lIVE,kSIX,lEVEN,kEIGHT",
    "kNINE,=16A6EfANDA,fOUBLE DANDA,aTANGSA LETTER OZ,pC,pQ,pX,oAZ,pC,pQ,pX,oVZ,pC,pQ,pX,oEZ,pC,pQ",
    "pX,oIZ,pC,pQ,pX,oUZ,pC,pQ,pX,oAWZ,qC,qQ,qX,oUIZ,qC,qQ,qX,oFINAL NG,oLONG UEX,oSHORT UEZ,uAWX",
    "oUEC,qZ,qQ,qX,pIUZ,rC,rQ,rX,oMZ,pC,pQ,pX,oKA,pHA,oGA,oNGA,oSA,oYA,oWA,oPA,oNYA,oPHA,oBA,oMA",
    "oNA,oHA,oLA,oHTA,oTA,oDA,oRA,oNHA,oSHA,oCA,oTSA,oGHA,oHTTA,oTHA,oXA,oFA,oDHA,oCHA,oZA",
    "=16AC0hDIGIT ZERO,nONE,nTWO,oHREE,nFOUR,oIVE,nSIX,oEVEN,nEIGHT,nNINE",
    "=16AD0aBASSA VAH LETTER ENNI,rKA,rSE,rFA,rMBE,rYIE,rGAH,rDHII,rKPAH,rJO,rHWAH,rWA,rZO,rGBU,rDO",
    "rCE,rUWU,rTO,rBA,rVU,rYEIN,rPA,rWADDA,rA,rO,sO,rU,rEE,rE,rI,=16AF0kCOMBINING HIGH TONE",
    "uLOW TONE,uMID TONE,uLOW-MID TONE,uHIGH-LOW TONE,kFULL STOP,=16B00aPAHAWH HMONG VOWEL KEEB,wV",
    "uIB,vV,uAUB,wV,uUB,vV,uEB,vV,uAIB,wV,uOOB,wV,uAWB,wV,uUAB,wV,uOB,vV,uIAB,wV,uAB,vV,uWB,vV,uAAB",
    "wV,nCONSONANT VAU,xNTSAU,xLAU,xHAU,xNLAU,xRAU,xNKAU,xQHAU,xYAU,xHLAU,xMAU,xCHAU,xNCHAU,xHNAU",
    "xPLHAU,xNTHAU,yAU,xAU,xXAU,xCAU,nMARK CIM TUB,wSO,wKES,xHAV,wSUAM,wHOM,wTAUM,nSIGN VOS THOM",
    "xSHAB CEEB,sCIM CHEEM,sVOS THIAB,wFEEM,sXYEEM NTXIV,yRHO,yTOV,yFAIB,sVOS SEEV,sMEEJ SUAB",
    "sVOS NRUA,sIB YAM,sXAUS,sCIM TSOV ROG,=16B50nDIGIT ZERO,tONE,tTWO,uHREE,tFOUR,uIVE,tSIX,uEVEN",
    "tEIGHT,tNINE,=16B5BnNUMBER TENS,uHUNDREDS,uTEN THOUSANDS,uMILLIONS,uHUNDRED MILLIONS",
    "uTEN BILLIONS,vRILLIONS,=16B63nSIGN VOS LUB,sXYOO,sHLI,sTHIRD-STAGE HLI,sZWJ THAJ,sHNUB,sNQIG",
    "sXIAB,sNTUJ,sAV,sTXHEEJ CEEV,sMEEJ TSEEB,sTAU,sLOS,sMUS,sCIM HAIS LUS NTOG NTOG,wCUAM TSHOOJ",
    "wTXWV,zb CHWV,wPUB DAWB,wNRES TOS,=16B7DnCLAN SIGN TSHEEJ,xYEEG,xLIS,yAUJ,xXYOOJ,xKOO,xHAWJ",
    "xMUAS,xTHOJ,ySAB,xPHAB,xKHAB,xHAM,xVAJ,xFAJ,xYAJ,xTSWB,xKWM,xVWJ",
    "=16E40aMEDEFAIDRIN CAPITAL LETTER M,zcS,zcV,zcW,zcATIU,zcZ,zcKP,zcP,zcT,zcG,zcF,zcI,zcK,zcA",
    "zcJ,zcE,zcB,zcC,zcU,zcYU,zcL,zcQ,zcHP,zcNY,zcX,zcD,zcOE,zcN,zcR,zcO,zcAI,zcY,mSMALL LETTER M",
    "zS,zV,zW,zATIU,zZ,zKP,zP,zT,zG,zF,zI,zK,zA,zJ,zE,zB,zC,zU,zYU,zL,zQ,zHP,zNY,zX,zD,zOE,zN,zR,zO",
    "zAI,zY,mDIGIT ZERO,sONE,sTWO,tHREE,sFOUR,tIVE,sSIX,tEVEN,sEIGHT,sNINE,mNUMBER TEN,tELEVEN",
    "tTWELVE,uHIRTEEN,tFOURTEEN,uIFTEEN,tSIXTEEN,uEVENTEEN,tEIGHTEEN,tNINETEEN",
    "mDIGIT ONE ALTERNATE FORM,sTWO ALTERNATE FORM,tHREE ALTERNATE FORM,mCOMMA,mFULL STOP",
    "mSYMBOL AIVA,mEXCLAMATION OH,=16F00bIAO LETTER PA,mBA,mYI PA,mPLA,mMA,nHA,mARCHAIC MA,mFA,mVA",
    "nFA,mTA,mDA,mYI TTA,qA,mTTA,mDDA,mNA,nHA,mYI NNA,mARCHAIC NA,mNNA,oHA,mLA,nYA,nHA,oYA,mTLHA",
    "mDLHA,mTLHYA,mDLHYA,mKA,mGA,mYI KA,mQA,nGA,mNGA,oHA,mARCHAIC NGA,mHA,mXA,mGHA,oHA,mTSSA,mDZZA",
    "mNYA,oHA,mTSHA,mDZHA,mYI TSHA,pDZHA,mREFORMED TSHA,mSHA,nSA,mZHA,nSHA,mTSA,mDZA,mYI TSA,mSA",
    "mZA,nSA,nZA,oSA,mARCHAIC ZZA,mZZYA,oSYA,mWA,mAH,mHHA,mBRI,mSYI,mDZYI,mTE,nSE,mRTE",
    "=16F4FfSIGN CONSONANT MODIFIER BAR,fLETTER NASALIZATION,fSIGN ASPIRATION,kREFORMED VOICING",
    "tASPIRATION,fVOWEL SIGN A,rA,rHH,rN,sG,qO,rO,qWO,qW,qE,rN,sG,qOEY,qI,rA,sN,tG,rO,rE,rI,rU,rNG",
    "qU,rA,sN,tG,rU,rEI,rNG,qY,rI,qAE,sE,qERR,qROUNDED ERR,qER,qROUNDED ER,qAI,qEI,qAU,qOU,qN,rG",
    "qUOG,qYUI,qOG,rER,qVW,qIG,qEA,qIONG,qUI,=16F8FfTONE RIGHT,kTOP RIGHT,kABOVE,kBELOW",
    "fLETTER TONE-2,r3,r4,r5,r6,r7,r8,mREFORMED TONE-1,zb2,zb4,zb5,zb6,zb8",
    "=16FE0aTANGUT ITERATION MARK,aNUSHU ITERATION MARK,aOLD CHINESE HOOK MARK,mITERATION MARK",
    "aKHITAN SMALL SCRIPT FILLER,=16FF0aVIETNAMESE ALTERNATE READING MARK CA,zjNHAY",
    "=18800aTANGUT COMPONENT-001,t2,t3,t4,t5,t6,t7,t8,t9,s10,t1,t2,t3,t4,t5,t6,t7,t8,t9,s20,t1,t2",
    "t3,t4,t5,t6,t7,t8,t9,s30,t1,t2,t3,t4,t5,t6,t7,t8,t9,s40,t1,t2,t3,t4,t5,t6,t7,t8,t9,s50,t1,t2",
    "t3,t4,t5,t6,t7,t8,t9,s60,t1,t2,t3,t4,t5,t6,t7,t8,t9,s70,t1,t2,t3,t4,t5,t6,t7,t8,t9,s80,t1,t2",
    "t3,t4,t5,t6,t7,t8,t9,s90,t1,t2,t3,t4,t5,t6,t7,t8,t9,r100,t1,t2,t3,t4,t5,t6,t7,t8,t9,s10,t1,t2",
    "t3,t4,t5,t6,t7,t8,t9,s20,t1,t2,t3,t4,t5,t6,t7,t8,t9,s30,t1,t2,t3,t4,t5,t6,t7,t8,t9,s40,t1,t2",
    "t3,t4,t5,t6,t7,t8,t9,s50,t1,t2,t3,t4,t5,t6,t7,t8,t9,s60,t1,t2,t3,t4,t5,t6,t7,t8,t9,s70,t1,t2",
    "t3,t4,t5,t6,t7,t8,t9,s80,t1,t2,t3,t4,t5,t6,t7,t8,t9,s90,t1,t2,t3,t4,t5,t6,t7,t8,t9,r200,t1,t2",
    "t3,t4,t5,t6,t7,t8,t9,s10,t1,t2,t3,t4,t5,t6,t7,t8,t9,s20,t1,t2,t3,t4,t5,t6,t7,t8,t9,s30,t1,t2",
    "t3,t4,t5,t6,t7,t8,t9,s40,t1,t2,t3,t4,t5,t6,t7,t8,t9,s50,t1,t2,t3,t4,t5,t6,t7,t8,t9,s60,t1,t2",
    "t3,t4,t5,t6,t7,t8,t9,s70,t1,t2,t3,t4,t5,t6,t7,t8,t9,s80,t1,t2,t3,t4,t5,t6,t7,t8,t9,s90,t1,t2",
    "t3,t4,t5,t6,t7,t8,t9,r300,t1,t2,t3,t4,t5,t6,t7,t8,t9,s10,t1,t2,t3,t4,t5,t6,t7,t8,t9,s20,t1,t2",
    "t3,t4,t5,t6,t7,t8,t9,s30,t1,t2,t3,t4,t5,t6,t7,t8,t9,s40,t1,t2,t3,t4,t5,t6,t7,t8,t9,s50,t1,t2",
    "t3,t4,t5,t6,t7,t8,t9,s60,t1,t2,t3,t4,t5,t6,t7,t8,t9,s70,t1,t2,t3,t4,t5,t6,t7,t8,t9,s80,t1,t2",
    "t3,t4,t5,t6,t7,t8,t9,s90,t1,t2,t3,t4,t5,t6,t7,t8,t9,r400,t1,t2,t3,t4,t5,t6,t7,t8,t9,s10,t1,t2",
    "t3,t4,t5,t6,t7,t8,t9,s20,t1,t2,t3,t4,t5,t6,t7,t8,t9,s30,t1,t2,t3,t4,t5,t6,t7,t8,t9,s40,t1,t2",
    "t3,t4,t5,t6,t7,t8,t9,s50,t1,t2,t3,t4,t5,t6,t7,t8,t9,s60,t1,t2,t3,t4,t5,t6,t7,t8,t9,s70,t1,t2",
    "t3,t4,t5,t6,t7,t8,t9,s80,t1,t2,t3,t4,t5,t6,t7,t8,t9,s90,t1,t2,t3,t4,t5,t6,t7,t8,t9,r500,t1,t2",
    "t3,t4,t5,t6,t7,t8,t9,s10,t1,t2,t3,t4,t5,t6,t7,t8,t9,s20,t1,t2,t3,t4,t5,t6,t7,t8,t9,s30,t1,t2",
    "t3,t4,t5,t6,t7,t8,t9,s40,t1,t2,t3,t4,t5,t6,t7,t8,t9,s50,t1,t2,t3,t4,t5,t6,t7,t8,t9,s60,t1,t2",
    "t3,t4,t5,t6,t7,t8,t9,s70,t1,t2,t3,t4,t5,t6,t7,t8,t9,s80,t1,t2,t3,t4,t5,t6,t7,t8,t9,s90,t1,t2",
    "t3,t4,t5,t6,t7,t8,t9,r600,t1,t2,t3,t4,t5,t6,t7,t8,t9,s10,t1,t2,t3,t4,t5,t6,t7,t8,t9,s20,t1,t2",
    "t3,t4,t5,t6,t7,t8,t9,s30,t1,t2,t3,t4,t5,t6,t7,t8,t9,s40,t1,t2,t3,t4,t5,t6,t7,t8,t9,s50,t1,t2",
    "t3,t4,t5,t6,t7,t8,t9,s60,t1,t2,t3,t4,t5,t6,t7,t8,t9,s70,t1,t2,t3,t4,t5,t6,t7,t8,t9,s80,t1,t2",
    "t3,t4,t5,t6,t7,t8,t9,s90,t1,t2,t3,t4,t5,t6,t7,t8,t9,r700,t1,t2,t3,t4,t5,t6,t7,t8,t9,s10,t1,t2",
    "t3,t4,t5,t6,t7,t8,t9,s20,t1,t2,t3,t4,t5,t6,t7,t8,t9,s30,t1,t2,t3,t4,t5,t6,t7,t8,t9,s40,t1,t2",
    "t3,t4,t5,t6,t7,t8,t9,s50,t1,t2,t3,t4,t5,t6,t7,t8,t9,s60,t1,t2,t3,t4,t5,t6,t7,t8",
    "=1AFF0aKATAKANA LETTER MINNAN TONE-2,zd3,zd4,zd5,=1AFF5zd7,zd8,xNASALIZED TONE-1,zn2,zn3,zn4",
    "zn5,=1AFFDzn7,zn8,=1B000qARCHAIC E,aHIRAGANA LETTER ARCHAIC YE,bENTAIGANA LETTER A-1,u2,u3,uWO",
    "sI-1,u2,u3,u4,sU-1,u2,u3,u4,u5,sE-2,u3,u4,u5,u6,sO-1,u2,u3,sKA-1,v2,v3,v4,v5,v6,v7,v8,v9,v10",
    "w1,vKE,tI-1,v2,v3,v4,v5,v6,v7,v8,tU-1,v2,v3,v4,v5,v6,v7,tE-1,v2,v3,v4,v5,v6,tO-1,v2,v3,vKI",
    "sSA-1,v2,v3,v4,v5,v6,v7,v8,tI-1,v2,v3,v4,v5,v6,tU-1,v2,v3,v4,v5,v6,v7,v8,tE-1,v2,v3,v4,v5,tO-1",
    "v2,v3,v4,v5,v6,v7,sTA-1,v2,v3,v4,tI-1,v2,v3,v4,v5,v6,v7,tU-1,v2,v3,v4,vTO,tE-1,v2,v3,v4,v5,v6",
    "v7,v8,v9,tO-1,v2,v3,v4,v5,v6,vRA,sNA-1,v2,v3,v4,v5,v6,v7,v8,v9,tI-1,v2,v3,v4,v5,v6,v7,vTE,tU-1",
    "v2,v3,tE-1,v2,v3,v4,v5,v6,vKO,tO-1,v2,v3,v4,v5,sHA-1,v2,v3,v4,v5,v6,v7,v8,v9,v10,w1,tI-1,v2,v3",
    "v4,v5,v6,v7,tU-1,v2,v3,tE-1,v2,v3,v4,v5,v6,v7,tO-1,v2,v3,v4,v5,v6,v7,v8,sMA-1,v2,v3,v4,v5,v6",
    "v7,tI-1,v2,v3,v4,v5,v6,v7,tU-1,v2,v3,v4,tE-1,v2,vMA,tO-1,v2,v3,v4,v5,v6,sYA-1,v2,v3,v4,v5,vYO",
    "tU-1,v2,v3,v4,tO-1,v2,v3,v4,v5,v6,sRA-1,v2,v3,v4,tI-1,v2,v3,v4,v5,v6,v7,tU-1,v2,v3,v4,v5,v6",
    "tE-1,v2,v3,v4,tO-1,v2,v3,v4,v5,v6,sWA-1,v2,v3,v4,v5,tI-1,v2,v3,v4,v5,tE-1,v2,v3,v4,tO-1,v2,v3",
    "v4,v5,v6,v7,sN-MU-MO-1,zb2,bIRAGANA LETTER ARCHAIC WU,aKATAKANA LETTER ARCHAIC YI,zE,yWU",
    "=1B150aHIRAGANA LETTER SMALL WI,xE,xO,=1B164aKATAKANA LETTER SMALL WI,xE,xO,wN",
    "=1BC00aDUPLOYAN LETTER H,qX,qP,qT,qF,qK,qL,qB,qD,qV,qG,qR,qP N,qD S,qF N,qK M,qR S,qTH",
    "qSLOAN DH,qDH,qKK,qSLOAN J,qHL,qLH,qRH,qM,qN,qJ,qS,qM N,qN M,qJ M,qS J,qM WITH DOT,qN WITH DOT",
    "qJ WITH DOT,zbS INSIDE AND ABOVE,qS WITH DOT,zb BELOW,qM S,qN S,qJ S,qS S,qM N S,qN M S,qJ M S",
    "qS J S,qJ S WITH DOT,sN,t S,qS T,t R,sP,t R,qT S,sR S,qW,rH,r R,qS N,sM,qK R S,qG R S,qS K,t R",
    "qA,qSLOAN OW,qOA,qO,qAOU,qI,qE,qIE,qSHORT I,qUI,qEE,qSLOAN EH,qROMANIAN I,qSLOAN EE,qLONG I",
    "qYE,qU,qEU,qXW,qU N,qLONG U,qROMANIAN U,qUH,qSLOAN U,qOOH,rW,rU,qWA,rO,rI,rEI,rOW,qNASAL U,wO",
    "wI,wA,qPERNIN AN,yM,qSLOAN EN,wAN,wON,qVOCALIC M,=1BC70jAFFIX LEFT HORIZONTAL SECANT",
    "pMID HORIZONTAL SECANT,pRIGHT HORIZONTAL SECANT,pLOW VERTICAL SECANT,pMID VERTICAL SECANT",
    "pHIGH VERTICAL SECANT,pATTACHED SECANT,yLEFT-TO-RIGHT SECANT,yTANGENT,zbIL,yE HOOK,yI HOOK",
    "yTANGENT HOOK,=1BC80pHIGH ACUTE,uTIGHT ACUTE,uGRAVE,uLONG GRAVE,uDOT,uCIRCLE,uLINE,uWAVE",
    "uVERTICAL,=1BC90pLOW ACUTE,tTIGHT ACUTE,tGRAVE,tLONG GRAVE,tDOT,tCIRCLE,tLINE,tWAVE,tVERTICAL",
    "tARROW,=1BC9CjSIGN O WITH CROSS,jTHICK LETTER SELECTOR,jDOUBLE MARK",
    "jPUNCTUATION CHINOOK FULL STOP,aSHORTHAND FORMAT LETTER OVERLAP,rCONTINUING OVERLAP,rDOWN STEP",
    "rUP STEP,=1CF00aZNAMENNY COMBINING MARK GORAZDO NIZKO S KRYZHEM ON LEFT",
    "yNIZKO S KRYZHEM ON LEFT,yTSATA ON LEFT,yGORAZDO NIZKO ON LEFT,yNIZKO ON LEFT,ySREDNE ON LEFT",
    "yMALO POVYSHE ON LEFT,yPOVYSHE ON LEFT,yVYSOKO ON LEFT,yMALO POVYSHE S KHOKHLOM ON LEFT",
    "yPOVYSHE S KHOKHLOM ON LEFT,yVYSOKO S KHOKHLOM ON LEFT,yGORAZDO NIZKO S KRYZHEM ON RIGHT",
    "yNIZKO S KRYZHEM ON RIGHT,yTSATA ON RIGHT,yGORAZDO NIZKO ON RIGHT,yNIZKO ON RIGHT",
    "ySREDNE ON RIGHT,yMALO POVYSHE ON RIGHT,yPOVYSHE ON RIGHT,yVYSOKO ON RIGHT",
    "yMALO POVYSHE S KHOKHLOM ON RIGHT,yPOVYSHE S KHOKHLOM ON RIGHT,yVYSOKO S KHOKHLOM ON RIGHT",
    "yTSATA S KRYZHEM,yMALO POVYSHE S KRYZHEM,ySTRANNO MALO POVYSHE,yPOVYSHE S KRYZHEM,ziTRANNO",
    "yVYSOKO S KRYZHEM,yMALO POVYSHE STRANNO,yGORAZDO VYSOKO,yZELO,yON,yRAVNO,yTIKHAYA,yBORZAYA",
    "yUDARKA,yPODVERTKA,yLOMKA,yKUPNAYA,zACHKA,yZEVOK,ySKOBA,yRAZSEKA,yKRYZH ON LEFT",
    "=1CF30tTONAL RANGE MARK MRACHNO,zlSVETLO,zlTRESVETLO,tMARK ZADERZHKA,yDEMESTVENNY ZADERZHKA",
    "yOTSECHKA,yPODCHASHIE,zj WITH VERTICAL STROKE,yCHASHKA,zg POLNAYA,yOBLACHKO,ySOROCHYA NOZHKA",
    "yTOCHKA,yDVOETOCHIE,tATTACHING VERTICAL OMET,tMARK CURVED OMET,yKRYZH",
    "tLOWER TONAL RANGE INDICATOR,jPRIZNAK MODIFIER LEVEL-2,zh3,zbDIRECTION FLIP,zbKRYZH,zbROG",
    "=1CF50jNEUME KRYUK,u TIKHY,pPARAKLIT,pDVA V CHELNU,pKLYUCH,pZANOZHEK,pSTOPITSA,x S OCHKOM",
    "pPEREVODKA,y NEPOSTOYANNAYA,pSTOPITSA WITH SOROCHYA NOZHKA,pCHELYUSTKA,pPALKA,pZAPYATAYA",
    "pGOLUBCHIK BORZY,zTIKHY,zMRACHNY,zSVETLY,zTRESVETLY,pVRAKHIYA PROSTAYA,yMRACHNAYA,ySVETLAYA",
    "yTRESVETLAYA,yKLYUCHEVAYA PROSTAYA,zlMRACHNAYA,zlSVETLAYA,zlTRESVETLAYA,pDOUBLE ZAPYATAYA",
    "pREVERSED CHELYUSTKA,pDERBITSA,pKHAMILO,pCHASHKA,pPODCHASHIE,pSKAMEYTSA MRACHNAYA,zSVETLAYA",
    "zTRESVETLAYA,zbIKHAYA,pDEMESTVENNY KLYUCH,pSKAMEYTSA KLYUCHEVAYA SVETLAYA,zhNEPOSTOYANNAYA",
    "zhVAYA TIKHAYA,zDVOECHELNAYA PROSTAYA,znSVETLAYA,znNEPOSTOYANNAYA,znKLYUCHEVAYA,qLOZHITIE",
    "y S ZAPYATOY,zZAKRYTOE,zS KRYZHEM,pKRYZH,pROG,pFITA,pKOBYLA,pZMEYTSA,pSTATYA,v S ZAPYATOY",
    "yKRYZHEM,yZAPYATOY I KRYZHEM,yKRYZHEM I ZAPYATOY,wZAKRYTAYA,zg S ZAPYATOY,wS ROGOM",
    "yDVUMYA ZAPYATYMI,yZAPYATOY I PODCHASHIEM,pPOLKULIZMY,pSTATYA NEPOSTOYANNAYA,rRELA PROSTAYA",
    "wMRACHNOTIKHAYA,wKRYZHEVAYA,wPOLUPOVODNAYA,yVODNAYA,wNEPOSTOYANNAYA,wKLYUCHEPOVODNAYA",
    "zeNEPOSTOYANNAYA,wTIKHAYA PUTNAYA,wDVOECHELNAYA,zgOKRYZHEVAYA,zhPOVODNAYA,zgAYA KLYUCHEVAYA",
    "zgOPOVODNAYA KLYUCHEVAYA,wGROMNAYA WITH SINGLE ZAPYATAYA,zbOPOVODNAYA WITH SINGLE ZAPYATAYA",
    "zbNAYA,zbOPOVODNAYA,zl WITH DOUBLE ZAPYATAYA,zcKRYZHEVAYA,zm POVODNAYA,pMECHIK,v POVODNY",
    "wKLYUCHEVOY,zePOVODNY,zeNEPOSTOYANNY,pSTRELA TRYASOGLASNAYA,zdPOVODNAYA,zdSTRELNAYA,pOSOKA",
    "u SVETLAYA,vTRESVETLAYA,vKRYUKOVAYA SVETLAYA,wLYUCHEVAYA SVETLAYA,ziNEPOSTOYANNAYA",
    "pSTRELA KRYUKOVAYA,zh POVODNAYA,ziGROMNAYA WITH SINGLE ZAPYATAYA",
    "zmOPOVODNAYA WITH SINGLE ZAPYATAYA,zmNAYA,zmOPOVODNAYA,zw WITH DOUBLE ZAPYATAYA,znKRYZHEVAYA",
    "zx POVODNAYA,ziTRYASKA,pKUFISMA,pOBLAKO,pDUDA,pNEMKA,pPAUK"]

end Reconcile.Text.CharName
