/-!
# Names of characters from U+1D000 to U+1EFFF

The lines are read by `Reconcile.Text.CharName`.
-/

namespace Reconcile.Text.CharName

/-- The names of the characters from U+1D000 to U+1EFFF. -/
def namesFrom1D000 : List String :=
  [
    "=1D000aBYZANTINE MUSICAL SYMBOL PSILI,zDASEIA,zPERISPOMENI,zOXEIA EKFONITIKON,zgDIPLI",
    "zVAREIA EKFONITIKON,zhDIPLI,zKATHISTI,zSYRMATIKI,zPARAKLITIKI,zYPOKRISIS,zj DIPLI,zKREMASTI",
    "zAPESO EKFONITIKON,zEXO EKFONITIKON,zTELEIA,zKENTIMATA,zAPOSTROFOS,zk DIPLI,zSYNEVMA,zTHITA",
    "zOLIGON ARCHAION,zGORGON ARCHAION,zPSILON,zCHAMILON,zVATHY,zISON ARCHAION,zKENTIMA ARCHAION",
    "zhTA ARCHAION,zSAXIMATA,zPARICHON,zSTAVROS APODEXIA,zOXEIAI ARCHAION,zVAREIAI ARCHAION",
    "zAPODERMA ARCHAION,zdTHEMA,zKLASMA,zREVMA,zPIASMA ARCHAION,zTINAGMA,zANATRICHISMA,zSEISMA",
    "zbYNAGMA ARCHAION,ziMETA STAVROU,zOYRANISMA ARCHAION,zTHEMA,zLEMOI,zDYO,zTRIA,zbESSERA",
    "zKRATIMATA,zAPESO EXO NEO,zFTHORA ARCHAION,zIMIFTHORA,zTROMIKON ARCHAION,zKATAVA TROMIKON",
    "zPELASTON,zbSIFISTON,zKONTEVMA,zCHOREVMA ARCHAION,zRAPISMA,zPARAKALESMA ARCHAION",
    "zfLITIKI ARCHAION,zICHADIN,zNANA,zPETASMA,zKONTEVMA ALLO,zTROMIKON ALLO,zSTRAGGISMATA",
    "zGRONTHISMATA,zISON NEO,zOLIGON NEO,zbXEIA NEO,zPETASTI,zKOUFISMA,zPETASTOKOUFISMA",
    "zKRATIMOKOUFISMA,zPELASTON NEO,zKENTIMATA NEO ANO,zh NEO ANO,zYPSILI,zAPOSTROFOS NEO",
    "zjI SYNDESMOS NEO,zYPORROI,zKRATIMOYPORROON,zELAFRON,zCHAMILI,zMIKRON ISON,zVAREIA NEO",
    "zPIASMA NEO,zbSIFISTON NEO,zOMALON,zANTIKENOMA,zLYGISMA,zPARAKLITIKI NEO,zfALESMA NEO",
    "zETERON PARAKALESMA,zKYLISMA,zANTIKENOKYLISMA,zTROMIKON NEO,zEKSTREPTON,zSYNAGMA NEO,zcRMA",
    "zCHOREVMA NEO,zEPEGERMA,zSEISMA NEO,zXIRON KLASMA,zTROMIKOPSIFISTON,zPSIFISTOLYGISMA",
    "zTROMIKOLYGISMA,zhPARAKALESMA,zPSIFISTOPARAKALESMA,zTROMIKOSYNAGMA,zPSIFISTOSYNAGMA",
    "zGORGOSYNTHETON,zARGOSYNTHETON,zETERON ARGOSYNTHETON,zOYRANISMA NEO,zTHEMATISMOS ESO,znXO",
    "zf APLOUN,zdS KAI APOTHES,zKATAVASMA,zENDOFONON,zYFEN KATO,zfANO,zSTAVROS,zKLASMA ANO",
    "zDIPLI ARCHAION,zKRATIMA ARCHAION,zjLLO,ziNEO,zAPODERMA NEO,zcLI,zDIPLI,zTRIPLI,zbETRAPLI",
    "zKORONIS,zLEIMMA ENOS CHRONOU,zhDYO CHRONON,zhTRION CHRONON,ziESSARON CHRONON",
    "zhIMISEOS CHRONOU,zGORGON NEO ANO,zhPARESTIGMENON ARISTERA,zvDEXIA,zDIGORGON",
    "zi PARESTIGMENON ARISTERA KATO,zzhANO,zxDEXIA,zTRIGORGON,zARGON,zIMIDIARGON,zDIARGON",
    "zAGOGI POLI ARGI,zgARGOTERI,zjI,zgMETRIA,ziSI,zgGORGI,zkOTERI,zgPOLI GORGI",
    "zMARTYRIA PROTOS ICHOS,zjALLI PROTOS ICHOS,zjDEYTEROS ICHOS,zjALLI DEYTEROS ICHOS",
    "zjTRITOS ICHOS,zmFONIAS,zkETARTOS ICHOS,zsLEGETOS ICHOS,zjLEGETOS ICHOS,zjPLAGIOS ICHOS",
    "zISAKIA TELOUS ICHIMATOS,zAPOSTROFOI TELOUS ICHIMATOS,zFANEROSIS TETRAFONIAS,zkMONOFONIAS",
    "zkDIFONIAS,zMARTYRIA VARYS ICHOS,zjPROTOVARYS ICHOS,zkLAGIOS TETARTOS ICHOS",
    "zGORTHMIKON N APLOUN,znDIPLOUN,zENARXIS KAI FTHORA VOU,zIMIFONON,zeTHORON",
    "zFTHORA ARCHAION DEYTEROU ICHOU,zhDIATONIKI PA,zrNANA,zhNAOS ICHOS,zhDIATONIKI DI",
    "zhSKLIRON DIATONON DI,zhDIATONIKI KE,zrZO,zrNI KATO,zuANO,zhMALAKON CHROMA DIFONIAS",
    "zwMONOFONIAS,zbHTORA SKLIRON CHROMA VASIS,zbTHORA SKLIRON CHROMA SYNAFI,zhNENANO,zCHROA ZYGOS",
    "zgKLITON,zgSPATHI,zFTHORA I YFESIS TETARTIMORION,zhENARMONIOS ANTIFONIA,zYFESIS TRITIMORION",
    "zDIESIS TRITIMORION,ziETARTIMORION,zhAPLI DYO DODEKATA,zhMONOGRAMMOS TESSERA DODEKATA",
    "zhDIGRAMMOS EX DODEKATA,zhTRIGRAMMOS OKTO DODEKATA,zYFESIS APLI DYO DODEKATA",
    "zhMONOGRAMMOS TESSERA DODEKATA,zhDIGRAMMOS EX DODEKATA,zhTRIGRAMMOS OKTO DODEKATA",
    "zGENIKI DIESIS,zhYFESIS,zDIASTOLI APLI MIKRI,zpEGALI,zjDIPLI,zjTHESEOS,zSIMANSIS THESEOS",
    "zq DISIMOU,zrTRISIMOU,zsETRASIMOU,zjARSEOS,zp DISIMOU,zqTRISIMOU,zrETRASIMOU,zDIGRAMMA GG",
    "zcFTOGGOS OU,zSTIGMA,zARKTIKO PA,ziVOU,ziGA,ziDI,ziKE,ziZO,ziNI,zKENTIMATA NEO MESO",
    "zh NEO MESO,zhTA NEO KATO,zh NEO KATO,zbLASMA KATO,zGORGON NEO KATO",
    "=1D100aMUSICAL SYMBOL SINGLE BARLINE,pDOUBLE BARLINE,pFINAL BARLINE,pREVERSE FINAL BARLINE",
    "pDASHED BARLINE,pSHORT BARLINE,pLEFT REPEAT SIGN,pRIGHT REPEAT SIGN,qEPEAT DOTS,pDAL SEGNO",
    "r CAPO,pSEGNO,pCODA,pREPEATED FIGURE-1,zg2,zg3,pFERMATA,w BELOW,pBREATH MARK,pCAESURA,pBRACE",
    "tKET,pONE-LINE STAFF,pTWO-LINE STAFF,qHREE-LINE STAFF,pFOUR-LINE STAFF,qIVE-LINE STAFF",
    "pSIX-LINE STAFF,tSTRING FRETBOARD,pFOUR-STRING FRETBOARD,pG CLEF,v OTTAVA ALTA,zeBASSA,pC CLEF",
    "pF CLEF,v OTTAVA ALTA,zeBASSA,pDRUM CLEF-1,z2,=1D129pMULTIPLE MEASURE REST,pDOUBLE SHARP,wFLAT",
    "pFLAT UP,uDOWN,pNATURAL UP,xDOWN,pSHARP UP,vDOWN,pQUARTER TONE SHARP,zdFLAT,pCOMMON TIME",
    "qUT TIME,pOTTAVA ALTA,wBASSA,pQUINDICESIMA ALTA,zdBASSA,pMULTI REST,pWHOLE REST,pHALF REST",
    "pQUARTER REST,pEIGHTH REST,pSIXTEENTH REST,pTHIRTY-SECOND REST,pSIXTY-FOURTH REST",
    "pONE HUNDRED TWENTY-EIGHTH REST,pX NOTEHEAD,pPLUS NOTEHEAD,pCIRCLE X NOTEHEAD",
    "pSQUARE NOTEHEAD WHITE,zgBLACK,pTRIANGLE NOTEHEAD UP WHITE,zlBLACK,ziLEFT WHITE,znBLACK",
    "ziRIGHT WHITE,zoBLACK,ziDOWN WHITE,znBLACK,ziUP RIGHT WHITE,zrBLACK,pMOON NOTEHEAD WHITE",
    "zeBLACK,pTRIANGLE-ROUND NOTEHEAD DOWN WHITE,ztBLACK,pPARENTHESIS NOTEHEAD,pVOID NOTEHEAD",
    "pNOTEHEAD BLACK,qULL NOTEHEAD,pCLUSTER NOTEHEAD WHITE,zhBLACK,pBREVE,pWHOLE NOTE,pHALF NOTE",
    "pQUARTER NOTE,pEIGHTH NOTE,pSIXTEENTH NOTE,pTHIRTY-SECOND NOTE,pSIXTY-FOURTH NOTE",
    "pONE HUNDRED TWENTY-EIGHTH NOTE,pCOMBINING STEM,zbPRECHGESANG STEM,zTREMOLO-1,zi2,zi3",
    "pFINGERED TREMOLO-1,zh2,zh3,pCOMBINING AUGMENTATION DOT,zFLAG-1,zf2,zf3,zf4,zf5,pBEGIN BEAM",
    "pEND BEAM,pBEGIN TIE,pEND TIE,pBEGIN SLUR,pEND SLUR,pBEGIN PHRASE,pEND PHRASE",
    "pCOMBINING ACCENT,zSTACCATO,zTENUTO,zSTACCATISSIMO,zMARCATO,zh-STACCATO,zACCENT-STACCATO",
    "zLOURE,pARPEGGIATO UP,zbDOWN,pCOMBINING DOIT,zRIP,zFLIP,zSMEAR,zBEND,zDOUBLE TONGUE",
    "zTRIPLE TONGUE,pRINFORZANDO,pSUBITO,pZ,pPIANO,pMEZZO,pFORTE,pCRESCENDO,pDECRESCENDO",
    "pGRACE NOTE SLASH,zbNO SLASH,pTR,qURN,pINVERTED TURN,pTURN SLASH,uUP,pORNAMENT STROKE-1,zg2",
    "zg3,zg4,zg5,zg6,zg7,zg8,zg9,zg10,zh1,pHAUPTSTIMME,pNEBENSTIMME,pEND OF STIMME,pDEGREE SLASH",
    "pCOMBINING DOWN BOW,zUP BOW,zHARMONIC,zSNAP PIZZICATO,pPEDAL MARK,vUP MARK,pHALF PEDAL MARK",
    "pGLISSANDO UP,zDOWN,pWITH FINGERNAILS,pDAMP,t ALL,pMAXIMA,pLONGA,pBREVIS,pSEMIBREVIS WHITE",
    "zbBLACK,pMINIMA,v BLACK,pSEMIMINIMA WHITE,zbBLACK,pFUSA WHITE,uBLACK,pLONGA PERFECTA REST",
    "vIMPERFECTA REST,pBREVIS REST,pSEMIBREVIS REST,pMINIMA REST,pSEMIMINIMA REST",
    "pTEMPUS PERFECTUM CUM PROLATIONE PERFECTA,zwIMPERFECTA,zwPERFECTA DIMINUTION-1",
    "wIMPERFECTUM CUM PROLATIONE PERFECTA,zyIMPERFECTA,zzj DIMINUTION-1,zzv2,zzv3,pCROIX",
    "pGREGORIAN C CLEF,zF CLEF,pSQUARE B,pVIRGA,pPODATUS,pCLIVIS,pSCANDICUS,pCLIMACUS,pTORCULUS",
    "pPORRECTUS,y FLEXUS,pSCANDICUS FLEXUS,pTORCULUS RESUPINUS,pPES SUBPUNCTIS,pKIEVAN C CLEF",
    "wEND OF PIECE,wFINAL NOTE,wRECITATIVE MARK,wWHOLE NOTE,wHALF NOTE,wQUARTER NOTE STEM DOWN,zpUP",
    "wEIGHTH NOTE STEM DOWN,zoUP,wFLAT SIGN,pSORI,pKORON,=1D200aGREEK VOCAL NOTATION SYMBOL-1,zd2",
    "zd3,zd4,zd5,zd6,zd7,zd8,zd9,zd10,ze1,ze2,ze3,ze4,ze5,ze6,ze7,ze8,ze9,zd20,ze1,ze2,ze3,ze4,zd50",
    "ze1,ze2,ze3,ze4,gINSTRUMENTAL NOTATION SYMBOL-1,zk2,zk4,zk5,zk7,zk8,zk11,zl2,zl3,zl4,zl7,zl8",
    "zl9,zk23,zl4,zl5,zl6,zl7,zl9,zk30,zl2,zl6,zl7,zl8,zl9,zk40,zl2,zl3,zl5,zl7,zl8,zl9,zk50,zl1",
    "zl2,zl3,zl4,aCOMBINING GREEK MUSICAL TRISEME,zETRASEME,yPENTASEME,aGREEK MUSICAL LEIMMA",
    "=1D2E0aMAYAN NUMERAL ZERO,oONE,oTWO,pHREE,oFOUR,pIVE,oSIX,pEVEN,oEIGHT,oNINE,oTEN,oELEVEN",
    "oTWELVE,pHIRTEEN,oFOURTEEN,pIFTEEN,oSIXTEEN,pEVENTEEN,oEIGHTEEN,oNINETEEN",
    "=1D300bONOGRAM FOR EARTH,aDIGRAM FOR HEAVENLY EARTH,mUMAN EARTH,lEARTHLY HEAVEN,uUMAN,pH",
    "aTETRAGRAM FOR CENTRE,oFULL CIRCLE,oMIRED,oBARRIER,oKEEPING SMALL,oCONTRARIETY,oASCENT",
    "oOPPOSITION,oBRANCHING OUT,oDEFECTIVENESS OR DISTORTION,pIVERGENCE,oYOUTHFULNESS,oINCREASE",
    "oPENETRATION,oREACH,oCONTACT,oHOLDING BACK,oWAITING,oFOLLOWING,oADVANCE,oRELEASE,qSISTANCE",
    "oEASE,oJOY,oCONTENTION,oENDEAVOUR,oDUTIES,oCHANGE,oDECISIVENESS,oBOLD RESOLUTION,oPACKING",
    "oLEGION,oCLOSENESS,oKINSHIP,oGATHERING,oSTRENGTH,oPURITY,oFULLNESS,oRESIDENCE,oLAW OR MODEL",
    "oRESPONSE,oGOING TO MEET,oENCOUNTERS,oSTOVE,oGREATNESS,oENLARGEMENT,oPATTERN,oRITUAL,oFLIGHT",
    "oVASTNESS OR WASTING,oCONSTANCY,oMEASURE,oETERNITY,oUNITY,oDIMINISHMENT,oCLOSED MOUTH",
    "oGUARDEDNESS,pATHERING IN,oMASSING,oACCUMULATION,oEMBELLISHMENT,oDOUBT,oWATCH,oSINKING,oINNER",
    "oDEPARTURE,pARKENING,pIMMING,oEXHAUSTION,oSEVERANCE,pTOPPAGE,oHARDNESS,oCOMPLETION,pLOSURE",
    "oFAILURE,oAGGRAVATION,oCOMPLIANCE,oON THE VERGE,oDIFFICULTIES,oLABOURING,oFOSTERING",
    "=1D360aCOUNTING ROD UNIT DIGIT ONE,yTWO,zHREE,yFOUR,zIVE,ySIX,zEVEN,yEIGHT,yNINE",
    "nTENS DIGIT ONE,yTWO,zHREE,yFOUR,zIVE,ySIX,zEVEN,yEIGHT,yNINE,aIDEOGRAPHIC TALLY MARK ONE,xTWO",
    "yHREE,xFOUR,yIVE,aTALLY MARK ONE,lFIVE,=1D400aMATHEMATICAL BOLD CAPITAL A,zbB,zbC,zbD,zbE,zbF",
    "zbG,zbH,zbI,zbJ,zbK,zbL,zbM,zbN,zbO,zbP,zbQ,zbR,zbS,zbT,zbU,zbV,zbW,zbX,zbY,zbZ,sSMALL A,yB,yC",
    "yD,yE,yF,yG,yH,yI,yJ,yK,yL,yM,yN,yO,yP,yQ,yR,yS,yT,yU,yV,yW,yX,yY,yZ,nITALIC CAPITAL A,zdB,zdC",
    "zdD,zdE,zdF,zdG,zdH,zdI,zdJ,zdK,zdL,zdM,zdN,zdO,zdP,zdQ,zdR,zdS,zdT,zdU,zdV,zdW,zdX,zdY,zdZ",
    "uSMALL A,zbB,zbC,zbD,zbE,zbF,zbG,=1D456zbI,zbJ,zbK,zbL,zbM,zbN,zbO,zbP,zbQ,zbR,zbS,zbT,zbU,zbV",
    "zbW,zbX,zbY,zbZ,nBOLD ITALIC CAPITAL A,ziB,ziC,ziD,ziE,ziF,ziG,ziH,ziI,ziJ,ziK,ziL,ziM,ziN,ziO",
    "ziP,ziQ,ziR,ziS,ziT,ziU,ziV,ziW,ziX,ziY,ziZ,zSMALL A,zgB,zgC,zgD,zgE,zgF,zgG,zgH,zgI,zgJ,zgK",
    "zgL,zgM,zgN,zgO,zgP,zgQ,zgR,zgS,zgT,zgU,zgV,zgW,zgX,zgY,zgZ,nSCRIPT CAPITAL A,=1D49EzdC,zdD",
    "=1D4A2zdG,=1D4A5zdJ,zdK,=1D4A9zdN,zdO,zdP,zdQ,=1D4AEzdS,zdT,zdU,zdV,zdW,zdX,zdY,zdZ,uSMALL A",
    "zbB,zbC,zbD,=1D4BBzbF,=1D4BDzbH,zbI,zbJ,zbK,zbL,zbM,zbN,=1D4C5zbP,zbQ,zbR,zbS,zbT,zbU,zbV,zbW",
    "zbX,zbY,zbZ,nBOLD SCRIPT CAPITAL A,ziB,ziC,ziD,ziE,ziF,ziG,ziH,ziI,ziJ,ziK,ziL,ziM,ziN,ziO,ziP",
    "ziQ,ziR,ziS,ziT,ziU,ziV,ziW,ziX,ziY,ziZ,zSMALL A,zgB,zgC,zgD,zgE,zgF,zgG,zgH,zgI,zgJ,zgK,zgL",
    "zgM,zgN,zgO,zgP,zgQ,zgR,zgS,zgT,zgU,zgV,zgW,zgX,zgY,zgZ,nFRAKTUR CAPITAL A,zeB,=1D507zeD,zeE",
    "zeF,zeG,=1D50DzeJ,zeK,zeL,zeM,zeN,zeO,zeP,zeQ,=1D516zeS,zeT,zeU,zeV,zeW,zeX,zeY,=1D51EvSMALL A",
    "zcB,zcC,zcD,zcE,zcF,zcG,zcH,zcI,zcJ,zcK,zcL,zcM,zcN,zcO,zcP,zcQ,zcR,zcS,zcT,zcU,zcV,zcW,zcX",
    "zcY,zcZ,nDOUBLE-STRUCK CAPITAL A,zkB,=1D53BzkD,zkE,zkF,zkG,=1D540zkI,zkJ,zkK,zkL,zkM,=1D546zkO",
    "=1D54AzkS,zkT,zkU,zkV,zkW,zkX,zkY,=1D552zcSMALL A,ziB,ziC,ziD,ziE,ziF,ziG,ziH,ziI,ziJ,ziK,ziL",
    "ziM,ziN,ziO,ziP,ziQ,ziR,ziS,ziT,ziU,ziV,ziW,ziX,ziY,ziZ,nBOLD FRAKTUR CAPITAL A,zjB,zjC,zjD",
    "zjE,zjF,zjG,zjH,zjI,zjJ,zjK,zjL,zjM,zjN,zjO,zjP,zjQ,zjR,zjS,zjT,zjU,zjV,zjW,zjX,zjY,zjZ",
    "zbSMALL A,zhB,zhC,zhD,zhE,zhF,zhG,zhH,zhI,zhJ,zhK,zhL,zhM,zhN,zhO,zhP,zhQ,zhR,zhS,zhT,zhU,zhV",
    "zhW,zhX,zhY,zhZ,nSANS-SERIF CAPITAL A,zhB,zhC,zhD,zhE,zhF,zhG,zhH,zhI,zhJ,zhK,zhL,zhM,zhN,zhO",
    "zhP,zhQ,zhR,zhS,zhT,zhU,zhV,zhW,zhX,zhY,zhZ,ySMALL A,zfB,zfC,zfD,zfE,zfF,zfG,zfH,zfI,zfJ,zfK",
    "zfL,zfM,zfN,zfO,zfP,zfQ,zfR,zfS,zfT,zfU,zfV,zfW,zfX,zfY,zfZ,yBOLD CAPITAL A,zmB,zmC,zmD,zmE",
    "zmF,zmG,zmH,zmI,zmJ,zmK,zmL,zmM,zmN,zmO,zmP,zmQ,zmR,zmS,zmT,zmU,zmV,zmW,zmX,zmY,zmZ,zeSMALL A",
    "zkB,zkC,zkD,zkE,zkF,zkG,zkH,zkI,zkJ,zkK,zkL,zkM,zkN,zkO,zkP,zkQ,zkR,zkS,zkT,zkU,zkV,zkW,zkX",
    "zkY,zkZ,yITALIC CAPITAL A,zoB,zoC,zoD,zoE,zoF,zoG,zoH,zoI,zoJ,zoK,zoL,zoM,zoN,zoO,zoP,zoQ,zoR",
    "zoS,zoT,zoU,zoV,zoW,zoX,zoY,zoZ,zgSMALL A,zmB,zmC,zmD,zmE,zmF,zmG,zmH,zmI,zmJ,zmK,zmL,zmM,zmN",
    "zmO,zmP,zmQ,zmR,zmS,zmT,zmU,zmV,zmW,zmX,zmY,zmZ,yBOLD ITALIC CAPITAL A,ztB,ztC,ztD,ztE,ztF,ztG",
    "ztH,ztI,ztJ,ztK,ztL,ztM,ztN,ztO,ztP,ztQ,ztR,ztS,ztT,ztU,ztV,ztW,ztX,ztY,ztZ,zlSMALL A,zrB,zrC",
    "zrD,zrE,zrF,zrG,zrH,zrI,zrJ,zrK,zrL,zrM,zrN,zrO,zrP,zrQ,zrR,zrS,zrT,zrU,zrV,zrW,zrX,zrY,zrZ",
    "nMONOSPACE CAPITAL A,zgB,zgC,zgD,zgE,zgF,zgG,zgH,zgI,zgJ,zgK,zgL,zgM,zgN,zgO,zgP,zgQ,zgR,zgS",
    "zgT,zgU,zgV,zgW,zgX,zgY,zgZ,xSMALL A,zeB,zeC,zeD,zeE,zeF,zeG,zeH,zeI,zeJ,zeK,zeL,zeM,zeN,zeO",
    "zeP,zeQ,zeR,zeS,zeT,zeU,zeV,zeW,zeX,zeY,zeZ,nITALIC SMALL DOTLESS I,zjJ",
    "=1D6A8nBOLD CAPITAL ALPHA,zbBETA,zbGAMMA,zbDELTA,zbEPSILON,zbZETA,zbETA,zbTHETA,zbIOTA,zbKAPPA",
    "zbLAMDA,zbMU,zbNU,zbXI,zbOMICRON,zbPI,zbRHO,zbTHETA SYMBOL,zbSIGMA,zbTAU,zbUPSILON,zbPHI,zbCHI",
    "zbPSI,zbOMEGA,sNABLA,sSMALL ALPHA,yBETA,yGAMMA,yDELTA,yEPSILON,yZETA,yETA,yTHETA,yIOTA,yKAPPA",
    "yLAMDA,yMU,yNU,yXI,yOMICRON,yPI,yRHO,yFINAL SIGMA,ySIGMA,yTAU,yUPSILON,yPHI,yCHI,yPSI,yOMEGA",
    "sPARTIAL DIFFERENTIAL,sEPSILON SYMBOL,sTHETA SYMBOL,sKAPPA SYMBOL,sPHI SYMBOL,sRHO SYMBOL",
    "sPI SYMBOL,nITALIC CAPITAL ALPHA,zdBETA,zdGAMMA,zdDELTA,zdEPSILON,zdZETA,zdETA,zdTHETA,zdIOTA",
    "zdKAPPA,zdLAMDA,zdMU,zdNU,zdXI,zdOMICRON,zdPI,zdRHO,zdTHETA SYMBOL,zdSIGMA,zdTAU,zdUPSILON",
    "zdPHI,zdCHI,zdPSI,zdOMEGA,uNABLA,uSMALL ALPHA,zbBETA,zbGAMMA,zbDELTA,zbEPSILON,zbZETA,zbETA",
    "zbTHETA,zbIOTA,zbKAPPA,zbLAMDA,zbMU,zbNU,zbXI,zbOMICRON,zbPI,zbRHO,zbFINAL SIGMA,zbSIGMA,zbTAU",
    "zbUPSILON,zbPHI,zbCHI,zbPSI,zbOMEGA,uPARTIAL DIFFERENTIAL,uEPSILON SYMBOL,uTHETA SYMBOL",
    "uKAPPA SYMBOL,uPHI SYMBOL,uRHO SYMBOL,uPI SYMBOL,nBOLD ITALIC CAPITAL ALPHA,ziBETA,ziGAMMA",
    "ziDELTA,ziEPSILON,ziZETA,ziETA,ziTHETA,ziIOTA,ziKAPPA,ziLAMDA,ziMU,ziNU,ziXI,ziOMICRON,ziPI",
    "ziRHO,ziTHETA SYMBOL,ziSIGMA,ziTAU,ziUPSILON,ziPHI,ziCHI,ziPSI,ziOMEGA,zNABLA,zSMALL ALPHA",
    "zgBETA,zgGAMMA,zgDELTA,zgEPSILON,zgZETA,zgETA,zgTHETA,zgIOTA,zgKAPPA,zgLAMDA,zgMU,zgNU,zgXI",
    "zgOMICRON,zgPI,zgRHO,zgFINAL SIGMA,zgSIGMA,zgTAU,zgUPSILON,zgPHI,zgCHI,zgPSI,zgOMEGA",
    "zPARTIAL DIFFERENTIAL,zEPSILON SYMBOL,zTHETA SYMBOL,zKAPPA SYMBOL,zPHI SYMBOL,zRHO SYMBOL",
    "zPI SYMBOL,nSANS-SERIF BOLD CAPITAL ALPHA,zmBETA,zmGAMMA,zmDELTA,zmEPSILON,zmZETA,zmETA",
    "zmTHETA,zmIOTA,zmKAPPA,zmLAMDA,zmMU,zmNU,zmXI,zmOMICRON,zmPI,zmRHO,zmTHETA SYMBOL,zmSIGMA",
    "zmTAU,zmUPSILON,zmPHI,zmCHI,zmPSI,zmOMEGA,zeNABLA,zeSMALL ALPHA,zkBETA,zkGAMMA,zkDELTA",
    "zkEPSILON,zkZETA,zkETA,zkTHETA,zkIOTA,zkKAPPA,zkLAMDA,zkMU,zkNU,zkXI,zkOMICRON,zkPI,zkRHO",
    "zkFINAL SIGMA,zkSIGMA,zkTAU,zkUPSILON,zkPHI,zkCHI,zkPSI,zkOMEGA,zePARTIAL DIFFERENTIAL",
    "zeEPSILON SYMBOL,zeTHETA SYMBOL,zeKAPPA SYMBOL,zePHI SYMBOL,zeRHO SYMBOL,zePI SYMBOL",
    "zeITALIC CAPITAL ALPHA,ztBETA,ztGAMMA,ztDELTA,ztEPSILON,ztZETA,ztETA,ztTHETA,ztIOTA,ztKAPPA",
    "ztLAMDA,ztMU,ztNU,ztXI,ztOMICRON,ztPI,ztRHO,ztTHETA SYMBOL,ztSIGMA,ztTAU,ztUPSILON,ztPHI,ztCHI",
    "ztPSI,ztOMEGA,zlNABLA,zlSMALL ALPHA,zrBETA,zrGAMMA,zrDELTA,zrEPSILON,zrZETA,zrETA,zrTHETA",
    "zrIOTA,zrKAPPA,zrLAMDA,zrMU,zrNU,zrXI,zrOMICRON,zrPI,zrRHO,zrFINAL SIGMA,zrSIGMA,zrTAU",
    "zrUPSILON,zrPHI,zrCHI,zrPSI,zrOMEGA,zlPARTIAL DIFFERENTIAL,zlEPSILON SYMBOL,zlTHETA SYMBOL",
    "zlKAPPA SYMBOL,zlPHI SYMBOL,zlRHO SYMBOL,zlPI SYMBOL,nBOLD CAPITAL DIGAMMA,sSMALL DIGAMMA",
    "=1D7CEsDIGIT ZERO,yONE,yTWO,zHREE,yFOUR,zIVE,ySIX,zEVEN,yEIGHT,yNINE,nDOUBLE-STRUCK DIGIT ZERO",
    "ziONE,ziTWO,zjHREE,ziFOUR,zjIVE,ziSIX,zjEVEN,ziEIGHT,ziNINE,nSANS-SERIF DIGIT ZERO,zfONE,zfTWO",
    "zgHREE,zfFOUR,zgIVE,zfSIX,zgEVEN,zfEIGHT,zfNINE,yBOLD DIGIT ZERO,zkONE,zkTWO,zlHREE,zkFOUR",
    "zlIVE,zkSIX,zlEVEN,zkEIGHT,zkNINE,nMONOSPACE DIGIT ZERO,zeONE,zeTWO,zfHREE,zeFOUR,zfIVE,zeSIX",
    "zfEVEN,zeEIGHT,zeNINE,aSIGNWRITING HAND-FIST INDEX,rCIRCLE INDEX,sUP INDEX,rOVAL INDEX",
    "rHINGE INDEX,rANGLE INDEX,rFIST INDEX BENT,rCIRCLE INDEX BENT,rFIST THUMB UNDER INDEX BENT",
    "wINDEX RAISED KNUCKLE,zdCUPPED,zdHINGED,zj LOW,rCIRCLE INDEX HINGE,rFIST INDEX MIDDLE",
    "rCIRCLE INDEX MIDDLE,rFIST INDEX MIDDLE BENT,zkRAISED KNUCKLES,zkHINGED,zdUP MIDDLE HINGED",
    "zdHINGED MIDDLE UP,zdMIDDLE CONJOINED,zt INDEX BENT,zuMIDDLE BENT,zuCUPPED,zuHINGED,zlROSSED",
    "rCIRCLE INDEX MIDDLE CROSSED,rFIST MIDDLE BENT OVER INDEX,wINDEX BENT OVER MIDDLE",
    "zdMIDDLE THUMB,rCIRCLE INDEX MIDDLE THUMB,rFIST INDEX MIDDLE STRAIGHT THUMB BENT",
    "zkBENT THUMB STRAIGHT,zkTHUMB BENT,zkHINGED SPREAD THUMB SIDE,zdUP MIDDLE HINGED THUMB SIDE",
    "zzbCONJOINED,zdHINGED MIDDLE UP THUMB SIDE,zdMIDDLE UP SPREAD THUMB FORWARD,zkTHUMB CUPPED",
    "zrIRCLED,zqHOOKED,zrINGED,wTHUMB BETWEEN INDEX MIDDLE STRAIGHT",
    "wINDEX MIDDLE CONJOINED THUMB SIDE,zzf CONJOINED,zzgBENT,wMIDDLE THUMB HOOKED INDEX UP",
    "wINDEX THUMB HOOKED MIDDLE UP,zdMIDDLE CONJOINED HINGED THUMB SIDE,zlROSSED THUMB SIDE",
    "zlONJOINED THUMB FORWARD,zuCUPPED THUMB FORWARD,wMIDDLE THUMB CUPPED INDEX UP",
    "wINDEX THUMB CUPPED MIDDLE UP,wMIDDLE THUMB CIRCLED INDEX UP,zyHINGED",
    "wINDEX THUMB ANGLED OUT MIDDLE UP,zqIN MIDDLE UP,zjCIRCLED MIDDLE UP",
    "zdMIDDLE THUMB CONJOINED HINGED,zqANGLED OUT,zvD,wMIDDLE THUMB ANGLED OUT INDEX UP,zzcCROSSED",
    "zrINDEX UP,wINDEX THUMB HOOKED MIDDLE HINGED,sLAT FOUR FINGERS,zj BENT,zkHINGED,zkCONJOINED",
    "zt SPLIT,rCLAW FOUR FINGERS CONJOINED,rFIST FOUR FINGERS CONJOINED BENT",
    "rHINGE FOUR FINGERS CONJOINED,rFLAT FIVE FINGERS SPREAD,wHEEL FIVE FINGERS SPREAD",
    "wFIVE FINGERS SPREAD FOUR BENT,wHEEL FIVE FINGERS SPREAD FOUR BENT,wFIVE FINGERS SPREAD BENT",
    "wHEEL FIVE FINGERS SPREAD BENT,wFIVE FINGERS SPREAD THUMB FORWARD,rCUP FIVE FINGERS SPREAD",
    "zp OPEN,rHINGE FIVE FINGERS SPREAD OPEN,rOVAL FIVE FINGERS SPREAD",
    "rFLAT FIVE FINGERS SPREAD HINGED,zx THUMB SIDE,zyNO THUMB,uT,v BETWEEN PALM FACINGS,wHEEL",
    "wTHUMB SIDE,wHEEL THUMB SIDE,wTHUMB BENT,zdFORWARD,wSPLIT INDEX THUMB SIDE,zdCENTRE",
    "zj THUMB SIDE,zu BENT,zdLITTLE,rCLAW,v THUMB SIDE,wNO THUMB,wTHUMB FORWARD,rHOOK CURLICUE,uK",
    "rCUP OPEN,tP,u OPEN THUMB SIDE,vTHUMB SIDE,vOPEN NO THUMB,vNO THUMB,vOPEN THUMB FORWARD",
    "vTHUMB FORWARD,tRLICUE OPEN,yE,sIRCLE,rOVAL,v THUMB SIDE,wNO THUMB,wTHUMB FORWARD,rHINGE OPEN",
    "zc THUMB FORWARD,vE,w SMALL,xOPEN THUMB SIDE,xTHUMB SIDE,xOPEN NO THUMB,xNO THUMB",
    "xTHUMB SIDE TOUCHING INDEX,zeBETWEEN MIDDLE RING,rANGLE,rFIST INDEX MIDDLE RING",
    "rCIRCLE INDEX MIDDLE RING,rHINGE INDEX MIDDLE RING,rANGLE INDEX MIDDLE RING,rHINGE LITTLE",
    "rFIST INDEX MIDDLE RING BENT,zpCONJOINED,rHINGE INDEX MIDDLE RING CONJOINED,rFIST LITTLE DOWN",
    "zi RIPPLE STRAIGHT,zqCURVED,zjOTHERS CIRCLED,zeUP,wTHUMB UNDER LITTLE UP,rCIRCLE LITTLE UP",
    "rOVAL LITTLE UP,rANGLE LITTLE UP,rFIST LITTLE RAISED KNUCKLE,zeBENT,zeTOUCHES THUMB,zfHUMB",
    "rHINGE LITTLE THUMB,rFIST LITTLE INDEX THUMB,rHINGE LITTLE INDEX THUMB",
    "rANGLE LITTLE INDEX THUMB INDEX THUMB OUT,zzcB,rFIST LITTLE INDEX,rCIRCLE LITTLE INDEX",
    "rHINGE LITTLE INDEX,rANGLE LITTLE INDEX,rFIST INDEX MIDDLE LITTLE,rCIRCLE INDEX MIDDLE LITTLE",
    "rHINGE INDEX MIDDLE LITTLE,xRING,rANGLE INDEX MIDDLE LITTLE,rFIST INDEX MIDDLE CROSS LITTLE",
    "rCIRCLE INDEX MIDDLE CROSS LITTLE,rFIST RING DOWN,rHINGE RING DOWN INDEX THUMB HOOK MIDDLE",
    "rANGLE RING DOWN MIDDLE THUMB INDEX CROSS,rFIST RING UP,zcRAISED KNUCKLE,zcLITTLE",
    "rCIRCLE RING LITTLE,rOVAL RING LITTLE,rANGLE RING LITTLE,rFIST RING MIDDLE,zi CONJOINED",
    "zjRAISED KNUCKLES,zcINDEX,zcTHUMB,rHOOK RING THUMB,rFIST INDEX RING LITTLE",
    "rCIRCLE INDEX RING LITTLE,sURLICUE INDEX RING LITTLE ON,rHOOK INDEX RING LITTLE OUT,zpIN",
    "zpUNDER,rCUP INDEX RING LITTLE,rHINGE INDEX RING LITTLE,rANGLE INDEX RING LITTLE OUT,zoE",
    "rFIST MIDDLE DOWN,rHINGE MIDDLE,rFIST MIDDLE UP,rCIRCLE MIDDLE UP,rFIST MIDDLE RAISED KNUCKLE",
    "zeUP THUMB SIDE,rHOOK MIDDLE THUMB,rFIST MIDDLE THUMB LITTLE,zeLITTLE,zeRING LITTLE",
    "rCIRCLE MIDDLE RING LITTLE,sURLICUE MIDDLE RING LITTLE ON,tP MIDDLE RING LITTLE",
    "rHINGE MIDDLE RING LITTLE,rANGLE MIDDLE RING LITTLE OUT,zrIN,zpE",
    "rCIRCLE MIDDLE RING LITTLE BENT,sLAW MIDDLE RING LITTLE CONJOINED,zz SIDE",
    "rHOOK MIDDLE RING LITTLE CONJOINED OUT,zzbIN,zyD,sINGE INDEX HINGED,rFIST INDEX THUMB SIDE",
    "rHINGE INDEX THUMB SIDE,rFIST INDEX THUMB SIDE THUMB DIAGONAL,zuCONJOINED,zuBENT,zoINDEX BENT",
    "zoBOTH BENT,zoINDEX HINGE,zjFORWARD INDEX STRAIGHT,zxBENT,zjHOOK,zjCURLICUE,zmVE THUMB INSIDE",
    "rCLAW INDEX THUMB CURVE THUMB INSIDE,rFIST INDEX THUMB CURVE THUMB UNDER,zkIRCLE",
    "rCUP INDEX THUMB,zh OPEN,rHINGE INDEX THUMB OPEN,zkLARGE,ziB,zj SMALL,rANGLE INDEX THUMB OUT",
    "zkIN,ziB,rFIST THUMB,zc HEEL,zdSIDE DIAGONAL,ziCONJOINED,ziBENT,zdFORWARD",
    "zdBETWEEN INDEX MIDDLE,zlMIDDLE RING,zlRING LITTLE,zdUNDER TWO FINGERS,zdOVER TWO FINGERS",
    "zdUNDER THREE FINGERS,zjFOUR FINGERS,zdOVER FOUR RAISED KNUCKLES,uT,v HEEL,mTOUCH SINGLE",
    "sMULTIPLE,sBETWEEN,mGRASP SINGLE,sMULTIPLE,sBETWEEN,mSTRIKE SINGLE,tMULTIPLE,tBETWEEN",
    "mBRUSH SINGLE,sMULTIPLE,sBETWEEN,mRUB SINGLE,qMULTIPLE,qBETWEEN,mSURFACE SYMBOLS,uBETWEEN",
    "nQUEEZE LARGE SINGLE,uSMALL SINGLE,uLARGE MULTIPLE,uSMALL MULTIPLE,vEQUENTIAL",
    "mFLICK LARGE SINGLE,sSMALL SINGLE,sLARGE MULTIPLE,sSMALL MULTIPLE,tEQUENTIAL",
    "mSQUEEZE FLICK ALTERNATING,mMOVEMENT-HINGE UP DOWN LARGE,zkSMALL,zfSEQUENTIAL",
    "zcDOWN SEQUENTIAL,zcUP DOWN ALTERNATING LARGE,zwSMALL,zcSIDE TO SIDE SCISSORS",
    "vWALLPLANE FINGER CONTACT,vFLOORPLANE FINGER CONTACT,vWALLPLANE SINGLE STRAIGHT SMALL,zwMEDIUM",
    "zwLARGE,zzcST,znWRIST FLEX,zgDOUBLE STRAIGHT,znWRIST FLEX,znALTERNATING,zy WRIST FLEX,zgCROSS",
    "zgTRIPLE STRAIGHT MOVEMENT,znWRIST FLEX,znALTERNATING,zy WRIST FLEX,zgBEND SMALL,zlMEDIUM",
    "zlLARGE,zgCORNER SMALL,znMEDIUM,znLARGE,znROTATION,zhHECK SMALL,zmMEDIUM,zmLARGE,zgBOX SMALL",
    "zkMEDIUM,zkLARGE,zgZIGZAG SMALL,znMEDIUM,znLARGE,zgPEAKS SMALL,zmMEDIUM,zmLARGE",
    "mTRAVEL-WALLPLANE ROTATION-WALLPLANE SINGLE,zxDOUBLE,zxALTERNATING,znFLOORPLANE SINGLE",
    "zyDOUBLE,zyALTERNATING,zeSHAKING,zeARM SPIRAL SINGLE,zpDOUBLE,zpTRIPLE",
    "mMOVEMENT-DIAGONAL AWAY SMALL,zkMEDIUM,zkLARGE,zpST,zfTOWARDS SMALL,znMEDIUM,znLARGE,zsST",
    "zfBETWEEN AWAY SMALL,zsMEDIUM,zsLARGE,zxST,znTOWARDS SMALL,zvMEDIUM,zvLARGE,zzbST",
    "vFLOORPLANE SINGLE STRAIGHT SMALL,zxMEDIUM,zxLARGE,zzdST,zoWRIST FLEX,zhDOUBLE STRAIGHT",
    "zoWRIST FLEX,zoALTERNATING,zz WRIST FLEX,zhCROSS,zhTRIPLE STRAIGHT MOVEMENT,zoWRIST FLEX",
    "zoALTERNATING MOVEMENT,zzbWRIST FLEX,zhBEND,zhCORNER SMALL,zoMEDIUM,zoLARGE,ziHECK,zhBOX SMALL",
    "zlMEDIUM,zlLARGE,zhZIGZAG SMALL,zoMEDIUM,zoLARGE,zhPEAKS SMALL,znMEDIUM,znLARGE",
    "mTRAVEL-FLOORPLANE ROTATION-FLOORPLANE SINGLE,zzDOUBLE,zzALTERNATING,zoWALLPLANE SINGLE",
    "zyDOUBLE,zyALTERNATING,zfSHAKING,mMOVEMENT-WALLPLANE CURVE QUARTER SMALL,zuMEDIUM,zuLARGE,zzST",
    "zmHALF-CIRCLE SMALL,zyMEDIUM,zyLARGE,zzeST,zmTHREE-QUARTER CIRCLE SMALL,zziMEDIUM,zgHUMP SMALL",
    "zlMEDIUM,zlLARGE,zgLOOP SMALL,zlMEDIUM,zlLARGE,zlSMALL DOUBLE,zgWAVE CURVE DOUBLE SMALL",
    "zyMEDIUM,zyLARGE,zrTRIPLE SMALL,zyMEDIUM,zyLARGE,zgCURVE THEN STRAIGHT,zlD CROSS SMALL",
    "ztMEDIUM,mROTATION-WALLPLANE SINGLE,zgDOUBLE,zgALTERNATE,mMOVEMENT-WALLPLANE SHAKING",
    "zgCURVE HITTING FRONT WALL,zgHUMP HITTING FRONT WALL,zgLOOP HITTING FRONT WALL",
    "zgWAVE HITTING FRONT WALL,mROTATION-WALLPLANE SINGLE HITTING FRONT WALL",
    "zgDOUBLE HITTING FRONT WALL,zgALTERNATING HITTING FRONT WALL",
    "mMOVEMENT-WALLPLANE CURVE HITTING CHEST,zgHUMP HITTING CHEST,zgLOOP HITTING CHEST",
    "zgWAVE HITTING CHEST,mROTATION-WALLPLANE SINGLE HITTING CHEST,zgDOUBLE HITTING CHEST",
    "zgALTERNATING HITTING CHEST,mMOVEMENT-WALLPLANE WAVE DIAGONAL PATH SMALL,zzMEDIUM,zzLARGE",
    "vFLOORPLANE CURVE HITTING CEILING SMALL,zzeLARGE,zhHUMP HITTING CEILING SMALL DOUBLE",
    "zzdLARGE DOUBLE,zzdSMALL TRIPLE,zzdLARGE TRIPLE,zhLOOP HITTING CEILING SMALL SINGLE",
    "zzdLARGE SINGLE,zzdSMALL DOUBLE,zzdLARGE DOUBLE,zhWAVE HITTING CEILING SMALL,zzdLARGE",
    "mROTATION-FLOORPLANE SINGLE HITTING CEILING,zhDOUBLE HITTING CEILING",
    "zhALTERNATING HITTING CEILING,mMOVEMENT-FLOORPLANE CURVE HITTING FLOOR SMALL,zzcLARGE",
    "zhHUMP HITTING FLOOR SMALL DOUBLE,zzbLARGE DOUBLE,zzbTRIPLE SMALL TRIPLE,zziLARGE TRIPLE",
    "zhLOOP HITTING FLOOR SMALL SINGLE,zzbLARGE SINGLE,zzbSMALL DOUBLE,zzbLARGE DOUBLE",
    "zhWAVE HITTING FLOOR SMALL,zzbLARGE,mROTATION-FLOORPLANE SINGLE HITTING FLOOR",
    "zhDOUBLE HITTING FLOOR,zhALTERNATING HITTING FLOOR,mMOVEMENT-FLOORPLANE CURVE SMALL,znMEDIUM",
    "znLARGE,zsST,znCOMBINED,zhHUMP SMALL,zhLOOP SMALL,zhWAVE SNAKE,znMALL,zmLARGE",
    "mROTATION-FLOORPLANE SINGLE,zhDOUBLE,zhALTERNATING,mMOVEMENT-FLOORPLANE SHAKING PARALLEL",
    "vWALLPLANE ARM CIRCLE SMALL SINGLE,zrMEDIUM SINGLE,zrSMALL DOUBLE,zrMEDIUM DOUBLE",
    "vFLOORPLANE ARM CIRCLE HITTING WALL SMALL SINGLE,zzgMEDIUM SINGLE,zzgLARGE SINGLE",
    "zzgSMALL DOUBLE,zzgMEDIUM DOUBLE,zzgLARGE DOUBLE,vWALLPLANE WRIST CIRCLE FRONT SINGLE,zzDOUBLE",
    "vFLOORPLANE WRIST CIRCLE HITTING WALL SINGLE,zziDOUBLE,vWALLPLANE FINGER CIRCLES SINGLE",
    "zvDOUBLE,vFLOORPLANE FINGER CIRCLES HITTING WALL SINGLE,zzkDOUBLE,mDYNAMIC ARROWHEAD SMALL",
    "zfLARGE,uFAST,uSLOW,uTENSE,uRELAXED,uSIMULTANEOUS,zh ALTERNATING,uEVERY OTHER TIME,uGRADUAL",
    "mHEAD,q RIM,rMOVEMENT-WALLPLANE STRAIGHT,zlTILT,zbFLOORPLANE STRAIGHT,zbWALLPLANE CURVE",
    "zbFLOORPLANE CURVE,z CIRCLE,mFACE DIRECTION POSITION NOSE FORWARD TILTING,zqUP OR DOWN",
    "zzb TILTING,mEYEBROWS STRAIGHT UP,zfNEUTRAL,zfDOWN,mDREAMY EYEBROWS NEUTRAL DOWN",
    "zdDOWN NEUTRAL,zdUP NEUTRAL,zdNEUTRAL UP,mFOREHEAD NEUTRAL,vCONTACT,vWRINKLED,mEYES OPEN",
    "rSQUEEZED,rCLOSED,p BLINK SINGLE,wMULTIPLE,pS HALF OPEN,rWIDE OPEN,rHALF CLOSED",
    "rWIDENING MOVEMENT,p WINK,pLASHES UP,wDOWN,wFLUTTERING,pGAZE-WALLPLANE STRAIGHT,zn DOUBLE",
    "zoALTERNATING,uFLOORPLANE STRAIGHT,zo DOUBLE,zpALTERNATING,uWALLPLANE CURVED",
    "uFLOORPLANE CURVED,uWALLPLANE CIRCLING,mCHEEKS PUFFED,tNEUTRAL,tSUCKED,mTENSE CHEEKS HIGH",
    "zMIDDLE,zLOW,mEARS,mNOSE NEUTRAL,rCONTACT,rWRINKLES,sIGGLES,mAIR BLOWING OUT,qSUCKING IN",
    "qBLOW SMALL ROTATIONS,qSUCK SMALL ROTATIONS,mBREATH INHALE,tEXHALE,mMOUTH CLOSED NEUTRAL",
    "zFORWARD,zCONTACT,sSMILE,x WRINKLED,yOPEN,sFROWN,x WRINKLED,yOPEN,sOPEN CIRCLE,xFORWARD",
    "xWRINKLED,xOVAL,zc WRINKLED,zdYAWN,xRECTANGLE,zh WRINKLED,ziYAWN,sKISS,w FORWARD,xWRINKLED",
    "sTENSE,x FORWARD,ySUCKED,mLIPS PRESSED TOGETHER,p LOWER OVER UPPER,qUPPER OVER LOWER",
    "mMOUTH CORNERS,sWRINKLES SINGLE,zcDOUBLE,mTONGUE STICKING OUT FAR,tLICKING LIPS",
    "tTIP BETWEEN LIPS,xTOUCHING INSIDE MOUTH,tINSIDE MOUTH RELAXED,tMOVES AGAINST CHEEK",
    "tCENTRE STICKING OUT,zbINSIDE MOUTH,nEETH,r MOVEMENT,sON TONGUE,zc MOVEMENT,vLIPS,z MOVEMENT",
    "sBITE LIPS,mMOVEMENT-WALLPLANE JAW,vFLOORPLANE JAW,mNECK,mHAIR,mEXCITEMENT,mSHOULDER HIP SPINE",
    "zPOSITIONS,mWALLPLANE SHOULDER HIP MOVE,mFLOORPLANE SHOULDER HIP MOVE",
    "mSHOULDER TILTING FROM WAIST,mTORSO-WALLPLANE STRAIGHT STRETCH,zdCURVED BEND",
    "sFLOORPLANE TWISTING,mUPPER BODY TILTING FROM HIP JOINTS,mLIMB COMBINATION,rLENGTH-1,y2,y3,y4",
    "y5,y6,y7,mFINGER,mLOCATION-WALLPLANE SPACE,vFLOORPLANE SPACE,u HEIGHT,vWIDTH,vDEPTH,vHEAD NECK",
    "vTORSO,vLIMBS DIGITS,mCOMMA,mFULL STOP,mSEMICOLON,mCOLON,mPARENTHESIS,=1DA9BmFILL MODIFIER-2",
    "zb3,zb4,zb5,zb6,=1DAA1mROTATION MODIFIER-2,zf3,zf4,zf5,zf6,zf7,zf8,zf9,zf10,zg1,zg2,zg3,zg4",
    "zg5,zg6,=1DF00aLATIN SMALL LETTER FENG DIGRAPH WITH TRILL,tREVERSED SCRIPT G",
    "gLETTER SMALL CAPITAL TURNED G,gSMALL LETTER REVERSED K,gLETTER SMALL CAPITAL L WITH BELT",
    "gSMALL LETTER LEZH WITH RETROFLEX HOOK,tTURNED Y WITH BELT,tREVERSED ENG",
    "tTURNED R WITH LONG LEG AND RETROFLEX HOOK,u WITH HOOK AND RETROFLEX HOOK",
    "gLETTER RETROFLEX CLICK WITH RETROFLEX HOOK,gSMALL LETTER ESH WITH DOUBLE BAR,zn AND CURL",
    "tTURNED T WITH CURL,gLETTER INVERTED GLOTTAL STOP WITH CURL,nSTRETCHED C WITH CURL",
    "oMALL CAPITAL TURNED K,gSMALL LETTER L WITH FISHHOOK,tDEZH DIGRAPH WITH PALATAL HOOK",
    "tL WITH BELT AND PALATAL HOOK,tENG WITH PALATAL HOOK,tTURNED R WITH PALATAL HOOK",
    "tR WITH FISHHOOK AND PALATAL HOOK,tTESH DIGRAPH WITH PALATAL HOOK,tEZH WITH PALATAL HOOK",
    "tDEZH DIGRAPH WITH RETROFLEX HOOK,tI WITH STROKE AND RETROFLEX HOOK,tO WITH RETROFLEX HOOK",
    "tTESH DIGRAPH WITH RETROFLEX HOOK,tC WITH RETROFLEX HOOK,tS WITH CURL",
    "=1E000aCOMBINING GLAGOLITIC LETTER AZU,zdBUKY,zdVEDE,zdGLAGOLI,zdDOBRO,zdYESTU,zdZHIVETE",
    "=1E008zeEMLJA,zdIZHE,zeNITIAL IZHE,zdI,zdDJERVI,zdKAKO,zdLJUDIJE,zdMYSLITE,zdNASHI,zdONU",
    "zdPOKOJI,zdRITSI,zdSLOVO,zdTVRIDO,zdUKU,zdFRITU,zdHERU,=1E01BzdSHTA,zdTSI,zdCHRIVI,zdSHA",
    "zdYERU,zgI,zeATI,=1E023zeU,zdSMALL YUS,=1E026zdYO,zdIOTATED SMALL YUS,zdBIG YUS",
    "zdIOTATED BIG YUS,zdFITA,=1E100aNYIAKENG PUACHUE HMONG LETTER MA,zfTSA,zfNTA,zfTA,zfHA,zfNA",
    "zfXA,zfNKA,zfCA,zfLA,zfSA,zfZA,zfNCA,zgTSA,zfKA,zfDA,zfNYA,zgRA,zfVA,zfNTXA,zfTXA,zfFA,zfRA",
    "zfQA,zfYA,zfNQA,zfPA,zfXYA,zfNPA,zfDLA,zfNPLA,zfHAH,zfMLA,zfPLA,zfGA,zfRRA,zfA,zgA,zfI,zfU,zfO",
    "zgO,zfE,zgE,zfW,=1E130xTONE-B,zdM,zdJ,zdV,zdS,zdG,zdD,xSIGN FOR PERSON,zhTHING,zhLOCATION",
    "zhANIMAL,zhINVERTEBRATE,zdXW XW,yYLLABLE LENGTHENER,=1E140xDIGIT ZERO,zeONE,zeTWO,zfHREE",
    "zeFOUR,zfIVE,zeSIX,zfEVEN,zeEIGHT,zeNINE,=1E14ExLOGOGRAM NYAJ,xCIRCLED CA",
    "=1E290aTOTO LETTER PA,mBA,mTA,mDA,mKA,mGA,mMA,mNA,nGA,mSA,mCHA,mYA,mWA,mJA,mHA,mRA,mLA,mI",
    "mBREATHY I,mIU,mBREATHY IU,mU,mE,mBREATHY E,mEO,mBREATHY EO,mO,mAE,mBREATHY AE,mA",
    "fSIGN RISING TONE,=1E2C0aWANCHO LETTER AA,oA,oBA,oCA,oDA,oGA,oYA,oPHA,oLA,oNA,oPA,oTA,pHA,oFA",
    "oSA,pHA,oJA,oZA,oWA,oVA,oKA,oO,oAU,oRA,oMA,oKHA,oHA,oE,oI,oNGA,oU,oLLHA,oTSA,pRA,oONG,oAANG",
    "pNG,oING,oON,oEN,oAAN,oNYA,oUEN,oYIH,hTONE TUP,pNI,mKOI,pNI,hDIGIT ZERO,nONE,nTWO,oHREE,nFOUR",
    "oIVE,nSIX,oEVEN,nEIGHT,nNINE,=1E2FFhNGUN SIGN,=1E7E0aETHIOPIC SYLLABLE HHYA,vU,vI,vAA,vEE,vE",
    "vO,=1E7E8sGURAGE HHWA,sHHWI,vEE,vE,=1E7EDsGURAGE MWI,zcEE,=1E7F0zQWI,zcEE,zcE,zBWI,zcEE,zKWI",
    "zcEE,zcE,zGWI,zcEE,zcE,zFWI,zcEE,zPWI,zcEE,=1E800aMENDE KIKAKUI SYLLABLE M001 KI,zb2 KA,zb3 KU",
    "z65 KEE,z95 KE,z76 KOO,z48 KO,y179 KUA,y004 WI,zb5 WA,zb6 WU,y126 WEE,z18 WE,zb4 WOO,y045 WO",
    "y194 WUI,z43 WEI,y061 WVI,z49 WVA,y139 WVE,y007 MIN,zb8 MAN,zb9 MUN,z59 MEN,z94 MON,y154 MUAN",
    "z89 MUEN,y010 BI,zb1 BA,zb2 BU,y150 BEE,y097 BE,y103 BOO,z38 BO,y013 I,zb4 A,zb5 U,y163 EE",
    "z00 E,z65 OO,z47 O,z37 EI,zb1 IN,zb5 IN,z95 AN,z78 EN,y019 SI,z20 SA,zb1 SU,y162 SEE,z16 SE",
    "z36 SOO,y079 SO,y196 SIA,y025 LI,zb6 LA,zb7 LU,z84 LEE,z73 LE,z54 LOO,y153 LO,z10 LONG LE",
    "y016 DI,zb7 DA,zb8 DU,z89 DEE,y180 DOO,zb1 DO,y022 TI,zb3 TA,zb4 TU,z91 TEE,z55 TE,y104 TOO",
    "y069 TO,z28 JI,zb9 JA,z30 JU,y157 JEE,z13 JE,z60 JOO,y063 JO,y175 LONG JO,y031 YI,zb2 YA",
    "zb3 YU,y109 YEE,y080 YE,y141 YOO,z21 YO,y034 FI,zb5 FA,zb6 FU,z78 FEE,zb5 FE,y133 FOO,y088 FO",
    "y197 FUA,z01 FAN,y037 NIN,zb8 NAN,zb9 NUN,y117 NEN,z69 NON,z76 HI,y041 HA,y186 HU,y040 HEE",
    "z96 HE,z42 HOO,y140 HO,y083 HEEI,y128 HOOU,y053 HIN,y130 HAN,y087 HUN,z52 HEN,y193 HON",
    "y046 HUAN,z90 NGGI,z43 NGGA,z82 NGGU,y115 NGGEE,z46 NGGE,z56 NGGOO,z20 NGGO,z59 NGGAA",
    "z27 NGGUA,y086 LONG NGGE,y106 LONG NGGOO,z83 LONG NGGO,z55 GI,z11 GA,z68 GU,z90 GEE,z66 GUEI",
    "zb7 GUAN,z84 NGEN,y057 NGON,y177 NGUAN,y068 PI,z99 PA,z50 PU,z81 PEE,z51 PE,y102 POO,y066 PO",
    "y145 MBI,y062 MBA,y122 MBU,y047 MBEE,y188 MBEE,y072 MBE,y172 MBOO,zb4 MBO,z87 MBUU",
    "z61 LONG MBE,z05 LONG MBOO,z42 LONG MBO,z32 KPI,y092 KPA,z74 KPU,z44 KPEE,y108 KPE,z12 KPOO",
    "z58 KPO,z24 GBI,y056 GBA,y148 GBU,y093 GBEE,y107 GBE,y071 GBOO,zb0 GBO,y171 RA,z23 NDI,zb9 NDA",
    "zb5 NDU,z91 NDEE,z19 NDE,y067 NDOO,zb4 NDO,y152 NJA,z92 NJU,z49 NJEE,z34 NJOO,z82 VI,zb5 VA",
    "z51 VU,z73 VEE,y085 VE,y144 VOO,y077 VO,y164 NYIN,y058 NYAN,y170 NYUN,y098 NYEN,z60 NYON",
    "=1E8C7oDIGIT ONE,uTWO,vHREE,uFOUR,vIVE,uSIX,vEVEN,uEIGHT,uNINE,oCOMBINING NUMBER TEENS,ziNS",
    "zgHUNDREDS,zgTHOUSANDS,zhEN THOUSANDS,zgHUNDRED THOUSANDS,zgMILLIONS",
    "=1E900aADLAM CAPITAL LETTER ALIF,vDAALI,vLAAM,vMIIM,vBA,vSINNYIIYHE,vPE,vBHE,vRA,vE,vFA,vI,vO",
    "vDHA,vYHE,vWAW,vNUN,vKAF,vYA,vU,vJIIM,vCHI,vHA,vQAAF,vGA,vNYA,vTU,vNHA,vVA,vKHA,vGBE,vZAL,vKPO",
    "vSHA,gSMALL LETTER ALIF,tDAALI,tLAAM,tMIIM,tBA,tSINNYIIYHE,tPE,tBHE,tRA,tE,tFA,tI,tO,tDHA,tYHE",
    "tWAW,tNUN,tKAF,tYA,tU,tJIIM,tCHI,tHA,tQAAF,tGA,tNYA,tTU,tNHA,tVA,tKHA,tGBE,tZAL,tKPO,tSHA",
    "gALIF LENGTHENER,gVOWEL LENGTHENER,gGEMINATION MARK,gHAMZA,gCONSONANT MODIFIER",
    "gGEMINATE CONSONANT MODIFIER,gNUKTA,hASALIZATION MARK,=1E950gDIGIT ZERO,mONE,mTWO,nHREE,mFOUR",
    "nIVE,mSIX,nEVEN,mEIGHT,mNINE,=1E95EgINITIAL EXCLAMATION MARK,oQUESTION MARK",
    "=1EC71aINDIC SIYAQ NUMBER ONE,tTWO,uHREE,tFOUR,uIVE,tSIX,uEVEN,tEIGHT,tNINE,tTEN,uWENTY,uHIRTY",
    "tFORTY,uIFTY,tSIXTY,uEVENTY,tEIGHTY,tNINETY,tONE HUNDRED,tTWO HUNDRED,uHREE HUNDRED",
    "tFOUR HUNDRED,uIVE HUNDRED,tSIX HUNDRED,uEVEN HUNDRED,tEIGHT HUNDRED,tNINE HUNDRED",
    "tONE THOUSAND,tTWO THOUSAND,uHREE THOUSAND,tFOUR THOUSAND,uIVE THOUSAND,tSIX THOUSAND",
    "uEVEN THOUSAND,tEIGHT THOUSAND,tNINE THOUSAND,tTEN THOUSAND,uWENTY THOUSAND,uHIRTY THOUSAND",
    "tFORTY THOUSAND,uIFTY THOUSAND,tSIXTY THOUSAND,uEVENTY THOUSAND,tEIGHTY THOUSAND",
    "tNINETY THOUSAND,tLAKH,xAN,mLAKH MARK,mNUMBER KAROR,yAN,tPREFIXED ONE,zdTWO,zeHREE,zdFOUR",
    "zeIVE,zdSIX,zeEVEN,zdEIGHT,zdNINE,mPLACEHOLDER,mFRACTION ONE QUARTER,zHALF,vTHREE QUARTERS",
    "mRUPEE MARK,mNUMBER ALTERNATE ONE,zeTWO,zfEN THOUSAND,mALTERNATE LAKH MARK",
    "=1ED01aOTTOMAN SIYAQ NUMBER ONE,vTWO,wHREE,vFOUR,wIVE,vSIX,wEVEN,vEIGHT,vNINE,vTEN,wWENTY",
    "wHIRTY,vFORTY,wIFTY,vSIXTY,wEVENTY,vEIGHTY,vNINETY,vONE HUNDRED,vTWO HUNDRED,wHREE HUNDRED",
    "vFOUR HUNDRED,wIVE HUNDRED,vSIX HUNDRED,wEVEN HUNDRED,vEIGHT HUNDRED,vNINE HUNDRED",
    "vONE THOUSAND,vTWO THOUSAND,wHREE THOUSAND,vFOUR THOUSAND,wIVE THOUSAND,vSIX THOUSAND",
    "wEVEN THOUSAND,vEIGHT THOUSAND,vNINE THOUSAND,vTEN THOUSAND,wWENTY THOUSAND,wHIRTY THOUSAND",
    "vFORTY THOUSAND,wIFTY THOUSAND,vSIXTY THOUSAND,wEVENTY THOUSAND,vEIGHTY THOUSAND",
    "vNINETY THOUSAND,oMARRATAN,oALTERNATE NUMBER TWO,zhHREE,zgFOUR,zhIVE,zgSIX,zhEVEN,zgEIGHT",
    "zgNINE,zgTEN,zgFOUR HUNDRED,zgSIX HUNDRED,zgTWO THOUSAND,zhEN THOUSAND,oFRACTION ONE HALF",
    "zcSIXTH,=1EE00aARABIC MATHEMATICAL ALEF,uBEH,uJEEM,uDAL,=1EE05uWAW,uZAIN,uHAH,uTAH,uYEH,uKAF",
    "uLAM,uMEEM,uNOON,uSEEN,uAIN,uFEH,uSAD,uQAF,uREH,uSHEEN,uTEH,vHEH,uKHAH,uTHAL,uDAD,uZAH,uGHAIN",
    "uDOTLESS BEH,zdNOON,zdFEH,zdQAF,=1EE21uINITIAL BEH,zdJEEM,=1EE24zdHEH,=1EE27zeAH,=1EE29zdYEH",
    "zdKAF,zdLAM,zdMEEM,zdNOON,zdSEEN,zdAIN,zdFEH,zdSAD,zdQAF,=1EE34zdSHEEN,zdTEH,zeHEH,zdKHAH",
    "=1EE39zdDAD,=1EE3BzdGHAIN,=1EE42uTAILED JEEM,=1EE47zcHAH,=1EE49zcYEH,=1EE4BzcLAM,=1EE4DzcNOON",
    "zcSEEN,zcAIN,=1EE51zcSAD,zcQAF,=1EE54zcSHEEN,=1EE57zcKHAH,=1EE59zcDAD,=1EE5BzcGHAIN",
    "=1EE5DzcDOTLESS NOON,=1EE5FzkQAF,=1EE61uSTRETCHED BEH,zfJEEM,=1EE64zfHEH,=1EE67zgAH,zfTAH",
    "zfYEH,zfKAF,=1EE6CzfMEEM,zfNOON,zfSEEN,zfAIN,zfFEH,zfSAD,zfQAF,=1EE74zfSHEEN,zfTEH,zgHEH",
    "zfKHAH,=1EE79zfDAD,zfZAH,zfGHAIN,zfDOTLESS BEH,=1EE7EznFEH,=1EE80uLOOPED ALEF,zcBEH,zcJEEM",
    "zcDAL,zcHEH,zcWAW,zcZAIN,zcHAH,zcTAH,zcYEH,=1EE8BzcLAM,zcMEEM,zcNOON,zcSEEN,zcAIN,zcFEH,zcSAD",
    "zcQAF,zcREH,zcSHEEN,zcTEH,zdHEH,zcKHAH,zcTHAL,zcDAD,zcZAH,zcGHAIN,=1EEA1uDOUBLE-STRUCK BEH",
    "zjJEEM,zjDAL,=1EEA5zjWAW,zjZAIN,zjHAH,zjTAH,zjYEH,=1EEABzjLAM,zjMEEM,zjNOON,zjSEEN,zjAIN,zjFEH",
    "zjSAD,zjQAF,zjREH,zjSHEEN,zjTEH,zkHEH,zjKHAH,zjTHAL,zjDAD,zjZAH,zjGHAIN",
    "=1EEF0uOPERATOR MEEM WITH HAH WITH TATWEEL,zeHAH WITH DAL"]

end Reconcile.Text.CharName
