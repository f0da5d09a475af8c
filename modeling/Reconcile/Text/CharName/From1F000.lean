/-!
# Names of characters from U+1F000 on

The lines are read by `Reconcile.Text.CharName`.
-/

namespace Reconcile.Text.CharName

/-- The names of the characters from U+1F000 on. -/
def namesFrom1F000 : List String :=
  [
    "=1F000aMAHJONG TILE EAST WIND,nSOUTH WIND,nWEST WIND,nNORTH WIND,nRED DRAGON,nGREEN DRAGON",
    "nWHITE DRAGON,nONE OF CHARACTERS,nTWO OF CHARACTERS,oHREE OF CHARACTERS,nFOUR OF CHARACTERS",
    "oIVE OF CHARACTERS,nSIX OF CHARACTERS,oEVEN OF CHARACTERS,nEIGHT OF CHARACTERS",
    "nNINE OF CHARACTERS,nONE OF BAMBOOS,nTWO OF BAMBOOS,oHREE OF BAMBOOS,nFOUR OF BAMBOOS",
    "oIVE OF BAMBOOS,nSIX OF BAMBOOS,oEVEN OF BAMBOOS,nEIGHT OF BAMBOOS,nNINE OF BAMBOOS",
    "nONE OF CIRCLES,nTWO OF CIRCLES,oHREE OF CIRCLES,nFOUR OF CIRCLES,oIVE OF CIRCLES",
    "nSIX OF CIRCLES,oEVEN OF CIRCLES,nEIGHT OF CIRCLES,nNINE OF CIRCLES,nPLUM,nORCHID,nBAMBOO",
    "nCHRYSANTHEMUM,nSPRING,oUMMER,nAUTUMN,nWINTER,nJOKER,nBACK,=1F030aDOMINO TILE HORIZONTAL BACK",
    "w-00-00,zc1,zc2,zc3,zc4,zc5,zc6,y1-00,zc1,zc2,zc3,zc4,zc5,zc6,y2-00,zc1,zc2,zc3,zc4,zc5,zc6",
    "y3-00,zc1,zc2,zc3,zc4,zc5,zc6,y4-00,zc1,zc2,zc3,zc4,zc5,zc6,y5-00,zc1,zc2,zc3,zc4,zc5,zc6",
    "y6-00,zc1,zc2,zc3,zc4,zc5,zc6,mVERTICAL BACK,u-00-00,z1,z2,z3,z4,z5,z6,w1-00,z1,z2,z3,z4,z5,z6",
    "w2-00,z1,z2,z3,z4,z5,z6,w3-00,z1,z2,z3,z4,z5,z6,w4-00,z1,z2,z3,z4,z5,z6,w5-00,z1,z2,z3,z4,z5",
    "z6,w6-00,z1,z2,z3,z4,z5,z6,=1F0A0aPLAYING CARD BACK,nACE OF SPADES,nTWO OF SPADES",
    "oHREE OF SPADES,nFOUR OF SPADES,oIVE OF SPADES,nSIX OF SPADES,oEVEN OF SPADES,nEIGHT OF SPADES",
    "nNINE OF SPADES,nTEN OF SPADES,nJACK OF SPADES,nKNIGHT OF SPADES,nQUEEN OF SPADES",
    "nKING OF SPADES,=1F0B1nACE OF HEARTS,nTWO OF HEARTS,oHREE OF HEARTS,nFOUR OF HEARTS",
    "oIVE OF HEARTS,nSIX OF HEARTS,oEVEN OF HEARTS,nEIGHT OF HEARTS,nNINE OF HEARTS,nTEN OF HEARTS",
    "nJACK OF HEARTS,nKNIGHT OF HEARTS,nQUEEN OF HEARTS,nKING OF HEARTS,nRED JOKER",
    "=1F0C1nACE OF DIAMONDS,nTWO OF DIAMONDS,oHREE OF DIAMONDS,nFOUR OF DIAMONDS,oIVE OF DIAMONDS",
    "nSIX OF DIAMONDS,oEVEN OF DIAMONDS,nEIGHT OF DIAMONDS,nNINE OF DIAMONDS,nTEN OF DIAMONDS",
    "nJACK OF DIAMONDS,nKNIGHT OF DIAMONDS,nQUEEN OF DIAMONDS,nKING OF DIAMONDS,nBLACK JOKER",
    "=1F0D1nACE OF CLUBS,nTWO OF CLUBS,oHREE OF CLUBS,nFOUR OF CLUBS,oIVE OF CLUBS,nSIX OF CLUBS",
    "oEVEN OF CLUBS,nEIGHT OF CLUBS,nNINE OF CLUBS,nTEN OF CLUBS,nJACK OF CLUBS,nKNIGHT OF CLUBS",
    "nQUEEN OF CLUBS,nKING OF CLUBS,nWHITE JOKER,nFOOL,nTRUMP-1,t2,t3,t4,t5,t6,t7,t8,t9,t10,u1,u2",
    "u3,u4,u5,u6,u7,u8,u9,t20,u1,=1F100aDIGIT ZERO FULL STOP,lCOMMA,gONE COMMA,gTWO COMMA",
    "hHREE COMMA,gFOUR COMMA,hIVE COMMA,gSIX COMMA,hEVEN COMMA,gEIGHT COMMA,gNINE COMMA",
    "cNGBAT CIRCLED SANS-SERIF DIGIT ZERO,iNEGATIVE CIRCLED SANS-SERIF DIGIT ZERO",
    "aCIRCLED ZERO WITH SLASH,iANTICLOCKWISE ARROW,iDOLLAR SIGN WITH OVERLAID BACKSLASH",
    "aPARENTHESIZED LATIN CAPITAL LETTER A,zkB,zkC,zkD,zkE,zkF,zkG,zkH,zkI,zkJ,zkK,zkL,zkM,zkN,zkO",
    "zkP,zkQ,zkR,zkS,zkT,zkU,zkV,zkW,zkX,zkY,zkZ,aTORTOISE SHELL BRACKETED LATIN CAPITAL LETTER S",
    "aCIRCLED ITALIC LATIN CAPITAL LETTER C,zlR,iCD,iWZ,bOPYLEFT SYMBOL",
    "aSQUARED LATIN CAPITAL LETTER A,zeB,zeC,zeD,zeE,zeF,zeG,zeH,zeI,zeJ,zeK,zeL,zeM,zeN,zeO,zeP",
    "zeQ,zeR,zeS,zeT,zeU,zeV,zeW,zeX,zeY,zeZ,iHV,iMV,iSD,jS,iPPV,iWC",
    "aNEGATIVE CIRCLED LATIN CAPITAL LETTER A,znB,znC,znD,znE,znF,znG,znH,znI,znJ,znK,znL,znM,znN",
    "znO,znP,znQ,znR,znS,znT,znU,znV,znW,znX,znY,znZ,aRAISED MC SIGN,iD SIGN,iR SIGN,aCIRCLED CC",
    "j WITH OVERLAID BACKSLASH,iHUMAN FIGURE,aNEGATIVE SQUARED LATIN CAPITAL LETTER A,znB,znC,znD",
    "znE,znF,znG,znH,znI,znJ,znK,znL,znM,znN,znO,znP,znQ,znR,znS,znT,znU,znV,znW,znX,znY,znZ",
    "aCROSSED NEGATIVE SQUARED LATIN CAPITAL LETTER P,aNEGATIVE SQUARED IC,rPA,rSA,rAB,rWC",
    "aSQUARE DJ,gD CL,jOOL,iFREE,iID,iNEW,jG,iOK,iSOS,iUP WITH EXCLAMATION MARK,iVS,iTHREE D",
    "iSECOND SCREEN,iTWO K,iFOUR K,iEIGHT K,iFIVE POINT ONE,iSEVEN POINT ONE,iTWENTY-TWO POINT TWO",
    "iSIXTY P,iONE HUNDRED TWENTY P,iLATIN SMALL LETTER D,iHC,jDR,jI-RES,iLOSSLESS,iSHV,iUHD,iVOD",
    "aMASK WORK SYMBOL,=1F1E6aREGIONAL INDICATOR SYMBOL LETTER A,ziB,ziC,ziD,ziE,ziF,ziG,ziH,ziI",
    "ziJ,ziK,ziL,ziM,ziN,ziO,ziP,ziQ,ziR,ziS,ziT,ziU,ziV,ziW,ziX,ziY,ziZ,aSQUARE HIRAGANA HOKA",
    "gD KATAKANA KOKO,rSA,=1F210iCJK UNIFIED IDEOGRAPH-624B,zf5B57,zg3CC,iKATAKANA DE",
    "iCJK UNIFIED IDEOGRAPH-4E8C,zf591A,zf89E3,zf5929,zf4EA4,zf6620,zf7121,zf6599,zf524D,zgF8C",
    "zg18D,zf65B0,zf521D,zf7D42,zg51F,zf8CA9,zf58F0,zg439,zf6F14,zg295,zg355,zf4E00,zi9,zf904A",
    "zf5DE6,zf4E2D,zf53F3,zf6307,zf8D70,zf6253,zf7981,zgA7A,zf5408,zf6E80,zg709,zi8,zf7533,zf5272",
    "zg5B6,zf914D,=1F240aTORTOISE SHELL BRACKETED CJK UNIFIED IDEOGRAPH-672C,zw4E09,zy8C,zw5B89",
    "zw70B9,zw6253,zw76D7,zw52DD,zw6557,=1F250aCIRCLED IDEOGRAPH ADVANTAGE,tCCEPT",
    "=1F260aROUNDED SYMBOL FOR FU,tLU,tSHOU,tXI,tSHUANGXI,tCAI,=1F300aCYCLONE,aFOGGY",
    "aCLOSED UMBRELLA,aNIGHT WITH STARS,aSUNRISE OVER MOUNTAINS,gE,aCITYSCAPE AT DUSK",
    "aSUNSET OVER BUILDINGS,aRAINBOW,aBRIDGE AT NIGHT,aWATER WAVE,aVOLCANO,aMILKY WAY",
    "aEARTH GLOBE EUROPE-AFRICA,mAMERICAS,nSIA-AUSTRALIA,aGLOBE WITH MERIDIANS,aNEW MOON SYMBOL",
    "aWAXING CRESCENT MOON SYMBOL,aFIRST QUARTER MOON SYMBOL,aWAXING GIBBOUS MOON SYMBOL",
    "aFULL MOON SYMBOL,aWANING GIBBOUS MOON SYMBOL,aLAST QUARTER MOON SYMBOL",
    "aWANING CRESCENT MOON SYMBOL,aCRESCENT MOON,aNEW MOON WITH FACE,aFIRST QUARTER MOON WITH FACE",
    "aLAST QUARTER MOON WITH FACE,aFULL MOON WITH FACE,aSUN WITH FACE,aGLOWING STAR,aSHOOTING STAR",
    "aTHERMOMETER,aBLACK DROPLET,aWHITE SUN,j WITH SMALL CLOUD,kBEHIND CLOUD,w WITH RAIN",
    "aCLOUD WITH RAIN,lSNOW,lLIGHTNING,lTORNADO,aFOG,aWIND BLOWING FACE,aHOT DOG,aTACO,aBURRITO",
    "aCHESTNUT,aSEEDLING,aEVERGREEN TREE,aDECIDUOUS TREE,aPALM TREE,aCACTUS,aHOT PEPPER,aTULIP",
    "aCHERRY BLOSSOM,aROSE,aHIBISCUS,aSUNFLOWER,aBLOSSOM,aEAR OF MAIZE,hRICE,aHERB",
    "aFOUR LEAF CLOVER,aMAPLE LEAF,aFALLEN LEAF,aLEAF FLUTTERING IN WIND,aMUSHROOM,aTOMATO",
    "aAUBERGINE,aGRAPES,aMELON,aWATERMELON,aTANGERINE,aLEMON,aBANANA,aPINEAPPLE,aRED APPLE",
    "aGREEN APPLE,aPEAR,dCH,aCHERRIES,aSTRAWBERRY,aHAMBURGER,aSLICE OF PIZZA,aMEAT ON BONE",
    "aPOULTRY LEG,aRICE CRACKER,fBALL,aCOOKED RICE,bURRY AND RICE,aSTEAMING BOWL,bPAGHETTI,aBREAD",
    "aFRENCH FRIES,aROASTED SWEET POTATO,aDANGO,aODEN,aSUSHI,aFRIED SHRIMP",
    "bISH CAKE WITH SWIRL DESIGN,aSOFT ICE CREAM,bHAVED ICE,aICE CREAM,aDOUGHNUT,aCOOKIE",
    "bHOCOLATE BAR,bANDY,aLOLLIPOP,aCUSTARD,aHONEY POT,aSHORTCAKE,aBENTO BOX,aPOT OF FOOD,aCOOKING",
    "aFORK AND KNIFE,aTEACUP WITHOUT HANDLE,aSAKE BOTTLE AND CUP,aWINE GLASS,aCOCKTAIL GLASS",
    "aTROPICAL DRINK,aBEER MUG,aCLINKING BEER MUGS,aBABY BOTTLE,aFORK AND KNIFE WITH PLATE",
    "aBOTTLE WITH POPPING CORK,aPOPCORN,aRIBBON,aWRAPPED PRESENT,aBIRTHDAY CAKE,aJACK-O-LANTERN",
    "aCHRISTMAS TREE,aFATHER CHRISTMAS,bIREWORKS,i SPARKLER,aBALLOON,aPARTY POPPER,aCONFETTI BALL",
    "aTANABATA TREE,aCROSSED FLAGS,aPINE DECORATION,aJAPANESE DOLLS,aCARP STREAMER,aWIND CHIME",
    "aMOON VIEWING CEREMONY,aSCHOOL SATCHEL,aGRADUATION CAP,aHEART WITH TIP ON THE LEFT",
    "aBOUQUET OF FLOWERS,aMILITARY MEDAL,aREMINDER RIBBON,aMUSICAL KEYBOARD WITH JACKS",
    "aSTUDIO MICROPHONE,aLEVEL SLIDER,aCONTROL KNOBS,aBEAMED ASCENDING MUSICAL NOTES",
    "hDESCENDING MUSICAL NOTES,aFILM FRAMES,aADMISSION TICKETS,aCAROUSEL HORSE,aFERRIS WHEEL",
    "aROLLER COASTER,aFISHING POLE AND FISH,aMICROPHONE,bOVIE CAMERA,aCINEMA,aHEADPHONE",
    "aARTIST PALETTE,aTOP HAT,aCIRCUS TENT,aTICKET,aCLAPPER BOARD,aPERFORMING ARTS,aVIDEO GAME",
    "aDIRECT HIT,aSLOT MACHINE,aBILLIARDS,aGAME DIE,aBOWLING,aFLOWER PLAYING CARDS,aMUSICAL NOTE",
    "cLTIPLE MUSICAL NOTES,aSAXOPHONE,aGUITAR,aMUSICAL KEYBOARD,aTRUMPET,aVIOLIN,aMUSICAL SCORE",
    "aRUNNING SHIRT WITH SASH,aTENNIS RACQUET AND BALL,aSKI AND SKI BOOT,aBASKETBALL AND HOOP",
    "aCHEQUERED FLAG,aSNOWBOARDER,aRUNNER,aSURFER,bPORTS MEDAL,aTROPHY,aHORSE RACING",
    "aAMERICAN FOOTBALL,aRUGBY FOOTBALL,aSWIMMER,aWEIGHT LIFTER,aGOLFER,aRACING MOTORCYCLE,hCAR",
    "aCRICKET BAT AND BALL,aVOLLEYBALL,aFIELD HOCKEY STICK AND BALL,aICE HOCKEY STICK AND PUCK",
    "aTABLE TENNIS PADDLE AND BALL,aSNOW CAPPED MOUNTAIN,aCAMPING,aBEACH WITH UMBRELLA",
    "bUILDING CONSTRUCTION,aHOUSE BUILDINGS,aCITYSCAPE,aDERELICT HOUSE BUILDING,aCLASSICAL BUILDING",
    "aDESERT,g ISLAND,aNATIONAL PARK,aSTADIUM,aHOUSE BUILDING,gWITH GARDEN,aOFFICE BUILDING",
    "aJAPANESE POST OFFICE,aEUROPEAN POST OFFICE,aHOSPITAL,aBANK,aAUTOMATED TELLER MACHINE,aHOTEL",
    "aLOVE HOTEL,aCONVENIENCE STORE,aSCHOOL,aDEPARTMENT STORE,aFACTORY,aIZAKAYA LANTERN",
    "aJAPANESE CASTLE,aEUROPEAN CASTLE,aWHITE PENNANT,aBLACK PENNANT,aWAVING WHITE FLAG,hBLACK FLAG",
    "aROSETTE,aBLACK ROSETTE,aLABEL,aBADMINTON RACQUET AND SHUTTLECOCK,bOW AND ARROW,aAMPHORA",
    "aEMOJI MODIFIER FITZPATRICK TYPE-1-2,zh3,zh4,zh5,zh6,aRAT,aMOUSE,aOX,aWATER BUFFALO,aCOW",
    "aTIGER,aLEOPARD,aRABBIT,aCAT,aDRAGON,aCROCODILE,aWHALE,aSNAIL,dKE,aHORSE,aRAM,aGOAT,aSHEEP",
    "aMONKEY,aROOSTER,aCHICKEN,aDOG,aPIG,aBOAR,aELEPHANT,aOCTOPUS,aSPIRAL SHELL,aBUG,aANT,aHONEYBEE",
    "aLADY BEETLE,aFISH,aTROPICAL FISH,aBLOWFISH,aTURTLE,aHATCHING CHICK,aBABY CHICK",
    "aFRONT-FACING BABY CHICK,aBIRD,aPENGUIN,aKOALA,aPOODLE,aDROMEDARY CAMEL,aBACTRIAN CAMEL",
    "aDOLPHIN,aMOUSE FACE,aCOW FACE,aTIGER FACE,aRABBIT FACE,aCAT FACE,aDRAGON FACE,aSPOUTING WHALE",
    "aHORSE FACE,aMONKEY FACE,aDOG FACE,aPIG FACE,aFROG FACE,aHAMSTER FACE,aWOLF FACE,aBEAR FACE",
    "aPANDA FACE,bIG NOSE,bAW PRINTS,aCHIPMUNK,aEYES,cE,bAR,aNOSE,aMOUTH,aTONGUE",
    "aWHITE UP POINTING BACKHAND INDEX,gDOWN POINTING BACKHAND INDEX,gLEFT POINTING BACKHAND INDEX",
    "gRIGHT POINTING BACKHAND INDEX,aFISTED HAND SIGN,aWAVING HAND SIGN,aOK HAND SIGN",
    "aTHUMBS UP SIGN,hDOWN SIGN,aCLAPPING HANDS SIGN,aOPEN HANDS SIGN,aCROWN,aWOMANS HAT",
    "aEYEGLASSES,aNECKTIE,aT-SHIRT,aJEANS,aDRESS,aKIMONO,aBIKINI,aWOMANS CLOTHES,aPURSE,aHANDBAG",
    "aPOUCH,aMANS SHOE,aATHLETIC SHOE,aHIGH-HEELED SHOE,aWOMANS SANDAL,hBOOTS,aFOOTPRINTS",
    "aBUST IN SILHOUETTE,eS IN SILHOUETTE,bOY,aGIRL,aMAN,aWOMAN,aFAMILY",
    "aMAN AND WOMAN HOLDING HANDS,aTWO MEN HOLDING HANDS,eWOMEN HOLDING HANDS,aPOLICE OFFICER",
    "aWOMAN WITH BUNNY EARS,aBRIDE WITH VEIL,aPERSON WITH BLOND HAIR,aMAN WITH GUA PI MAO,jTURBAN",
    "aOLDER MAN,gWOMAN,aBABY,aCONSTRUCTION WORKER,aPRINCESS,aJAPANESE OGRE,jGOBLIN,aGHOST",
    "aBABY ANGEL,aEXTRATERRESTRIAL ALIEN,aALIEN MONSTER,aIMP,aSKULL,aINFORMATION DESK PERSON",
    "aGUARDSMAN,aDANCER,aLIPSTICK,aNAIL POLISH,aFACE MASSAGE,aHAIRCUT,aBARBER POLE,aSYRINGE,aPILL",
    "aKISS MARK,aLOVE LETTER,aRING,aGEM STONE,aKISS,aBOUQUET,aCOUPLE WITH HEART,aWEDDING",
    "aBEATING HEART,bROKEN HEART,aTWO HEARTS,aSPARKLING HEART,aGROWING HEART,aHEART WITH ARROW",
    "aBLUE HEART,aGREEN HEART,aYELLOW HEART,aPURPLE HEART,aHEART WITH RIBBON,aREVOLVING HEARTS",
    "aHEART DECORATION,aDIAMOND SHAPE WITH A DOT INSIDE,aELECTRIC LIGHT BULB,aANGER SYMBOL,aBOMB",
    "aSLEEPING SYMBOL,aCOLLISION SYMBOL,aSPLASHING SWEAT SYMBOL,aDROPLET,bASH SYMBOL,aPILE OF POO",
    "aFLEXED BICEPS,aDIZZY SYMBOL,aSPEECH BALLOON,aTHOUGHT BALLOON,aWHITE FLOWER",
    "aHUNDRED POINTS SYMBOL,aMONEY BAG,aCURRENCY EXCHANGE,aHEAVY DOLLAR SIGN,aCREDIT CARD",
    "aBANKNOTE WITH YEN SIGN,oDOLLAR SIGN,oEURO SIGN,oPOUND SIGN,aMONEY WITH WINGS",
    "aCHART WITH UPWARDS TREND AND YEN SIGN,aSEAT,aPERSONAL COMPUTER,aBRIEFCASE,aMINIDISC",
    "aFLOPPY DISK,aOPTICAL DISC,aDVD,aFILE FOLDER,aOPEN FILE FOLDER,aPAGE WITH CURL,fFACING UP",
    "aCALENDAR,aTEAR-OFF CALENDAR,aCARD INDEX,bHART WITH UPWARDS TREND,lDOWNWARDS TREND,aBAR CHART",
    "aCLIPBOARD,aPUSHPIN,aROUND PUSHPIN,aPAPERCLIP,aSTRAIGHT RULER,aTRIANGULAR RULER,aBOOKMARK TABS",
    "aLEDGER,aNOTEBOOK,i WITH DECORATIVE COVER,aCLOSED BOOK,aOPEN BOOK,aGREEN BOOK,aBLUE BOOK",
    "aORANGE BOOK,aBOOKS,aNAME BADGE,aSCROLL,aMEMO,aTELEPHONE RECEIVER,aPAGER,aFAX MACHINE",
    "aSATELLITE ANTENNA,aPUBLIC ADDRESS LOUDSPEAKER,aCHEERING MEGAPHONE,aOUTBOX TRAY,aINBOX TRAY",
    "aPACKAGE,aE-MAIL SYMBOL,aINCOMING ENVELOPE,aENVELOPE WITH DOWNWARDS ARROW ABOVE",
    "aCLOSED MAILBOX WITH LOWERED FLAG,uRAISED FLAG,aOPEN MAILBOX WITH RAISED FLAG,sLOWERED FLAG",
    "aPOSTBOX,eAL HORN,aNEWSPAPER,aMOBILE PHONE,m WITH RIGHTWARDS ARROW AT LEFT,aVIBRATION MODE",
    "aMOBILE PHONE OFF,aNO MOBILE PHONES,aANTENNA WITH BARS,aCAMERA,g WITH FLASH,aVIDEO CAMERA",
    "aTELEVISION,aRADIO,aVIDEOCASSETTE,aFILM PROJECTOR,aPORTABLE STEREO,bRAYER BEADS",
    "aTWISTED RIGHTWARDS ARROWS,aCLOCKWISE RIGHTWARDS AND LEFTWARDS OPEN CIRCLE ARROWS",
    "zzd WITH CIRCLED ONE OVERLAY,kDOWNWARDS AND UPWARDS OPEN CIRCLE ARROWS",
    "aANTICLOCKWISE DOWNWARDS AND UPWARDS OPEN CIRCLE ARROWS,aLOW BRIGHTNESS SYMBOL",
    "aHIGH BRIGHTNESS SYMBOL,aSPEAKER WITH CANCELLATION STROKE,gR,h WITH ONE SOUND WAVE",
    "nTHREE SOUND WAVES,aBATTERY,aELECTRIC PLUG,aLEFT-POINTING MAGNIFYING GLASS",
    "aRIGHT-POINTING MAGNIFYING GLASS,aLOCK WITH INK PEN,aCLOSED LOCK WITH KEY,aKEY,aLOCK",
    "aOPEN LOCK,aBELL,e WITH CANCELLATION STROKE,bOOKMARK,aLINK SYMBOL,aRADIO BUTTON",
    "aBACK WITH LEFTWARDS ARROW ABOVE,aEND WITH LEFTWARDS ARROW ABOVE",
    "aON WITH EXCLAMATION MARK WITH LEFT RIGHT ARROW ABOVE,aSOON WITH RIGHTWARDS ARROW ABOVE",
    "aTOP WITH UPWARDS ARROW ABOVE,aNO ONE UNDER EIGHTEEN SYMBOL,aKEYCAP TEN",
    "aINPUT SYMBOL FOR LATIN CAPITAL LETTERS,xSMALL LETTERS,rNUMBERS,rSYMBOLS,rLATIN LETTERS,aFIRE",
    "aELECTRIC TORCH,aWRENCH,aHAMMER,aNUT AND BOLT,aHOCHO,aPISTOL,aMICROSCOPE,aTELESCOPE",
    "aCRYSTAL BALL,aSIX POINTED STAR WITH MIDDLE DOT,aJAPANESE SYMBOL FOR BEGINNER,aTRIDENT EMBLEM",
    "aBLACK SQUARE BUTTON,aWHITE SQUARE BUTTON,aLARGE RED CIRCLE,gBLUE CIRCLE,gORANGE DIAMOND",
    "gBLUE DIAMOND,aSMALL ORANGE DIAMOND,gBLUE DIAMOND,aUP-POINTING RED TRIANGLE",
    "aDOWN-POINTING RED TRIANGLE,aUP-POINTING SMALL RED TRIANGLE,aDOWN-POINTING SMALL RED TRIANGLE",
    "aLOWER RIGHT SHADOWED WHITE CIRCLE,aUPPER RIGHT SHADOWED WHITE CIRCLE,aCIRCLED CROSS POMMEE",
    "bROSS POMMEE WITH HALF-CIRCLE BELOW,lE,aNOTCHED LEFT SEMICIRCLE WITH THREE DOTS",
    "iRIGHT SEMICIRCLE WITH THREE DOTS,aSYMBOL FOR MARKS CHAPTER,aWHITE LATIN CROSS",
    "aHEAVY LATIN CROSS,aCELTIC CROSS,aOM SYMBOL,aDOVE OF PEACE,aKAABA,aMOSQUE,aSYNAGOGUE",
    "aMENORAH WITH NINE BRANCHES,aBOWL OF HYGIEIA,aCLOCK FACE ONE OCLOCK,lTWO OCLOCK,mHREE OCLOCK",
    "lFOUR OCLOCK,mIVE OCLOCK,lSIX OCLOCK,mEVEN OCLOCK,lEIGHT OCLOCK,lNINE OCLOCK,lTEN OCLOCK",
    "lELEVEN OCLOCK,lTWELVE OCLOCK,lONE-THIRTY,lTWO-THIRTY,mHREE-THIRTY,lFOUR-THIRTY,mIVE-THIRTY",
    "lSIX-THIRTY,mEVEN-THIRTY,lEIGHT-THIRTY,lNINE-THIRTY,lTEN-THIRTY,lELEVEN-THIRTY,lTWELVE-THIRTY",
    "aRIGHT SPEAKER,n WITH ONE SOUND WAVE,tTHREE SOUND WAVES,aBULLHORN,i WITH SOUND WAVES",
    "aRINGING BELL,aBOOK,aCANDLE,aMANTELPIECE CLOCK,aBLACK SKULL AND CROSSBONES,aNO PIRACY,aHOLE",
    "aMAN IN BUSINESS SUIT LEVITATING,aSLEUTH OR SPY,aDARK SUNGLASSES,aSPIDER,g WEB,aJOYSTICK",
    "aMAN DANCING,aLEFT HAND TELEPHONE RECEIVER,aTELEPHONE RECEIVER WITH PAGE",
    "aRIGHT HAND TELEPHONE RECEIVER,aWHITE TOUCHTONE TELEPHONE,aBLACK TOUCHTONE TELEPHONE",
    "aTELEPHONE ON TOP OF MODEM,aCLAMSHELL MOBILE PHONE,aBACK OF ENVELOPE,aSTAMPED ENVELOPE",
    "aENVELOPE WITH LIGHTNING,aFLYING ENVELOPE,aPEN OVER STAMPED ENVELOPE,aLINKED PAPERCLIPS",
    "aBLACK PUSHPIN,aLOWER LEFT PENCIL,lBALLPOINT PEN,lFOUNTAIN PEN,lPAINTBRUSH,lCRAYON",
    "bEFT WRITING HAND,aTURNED OK HAND SIGN,aRAISED HAND WITH FINGERS SPLAYED",
    "bEVERSED RAISED HAND WITH FINGERS SPLAYED,jTHUMBS UP SIGN,qDOWN SIGN,jVICTORY HAND",
    "jHAND WITH MIDDLE FINGER EXTENDED,bAISED HAND WITH PART BETWEEN MIDDLE AND RING FINGERS",
    "aWHITE DOWN POINTING LEFT HAND INDEX,aSIDEWAYS WHITE LEFT POINTING INDEX,pRIGHT POINTING INDEX",
    "jBLACK LEFT POINTING INDEX,pRIGHT POINTING INDEX,aBLACK LEFT POINTING BACKHAND INDEX",
    "gRIGHT POINTING BACKHAND INDEX,aSIDEWAYS WHITE UP POINTING INDEX,pDOWN POINTING INDEX",
    "jBLACK UP POINTING INDEX,pDOWN POINTING INDEX,aBLACK UP POINTING BACKHAND INDEX",
    "gDOWN POINTING BACKHAND INDEX,gHEART,aDESKTOP COMPUTER,aKEYBOARD AND MOUSE",
    "aTHREE NETWORKED COMPUTERS,aPRINTER,bOCKET CALCULATOR,aBLACK HARD SHELL FLOPPY DISK",
    "aWHITE HARD SHELL FLOPPY DISK,aSOFT SHELL FLOPPY DISK,aTAPE CARTRIDGE,aWIRED KEYBOARD",
    "aONE BUTTON MOUSE,aTWO BUTTON MOUSE,bHREE BUTTON MOUSE,bRACKBALL,aOLD PERSONAL COMPUTER",
    "aHARD DISK,aSCREEN,aPRINTER ICON,aFAX ICON,aOPTICAL DISC ICON,aDOCUMENT WITH TEXT",
    "s AND PICTURE,oPICTURE,aFRAME WITH PICTURE,lTILES,lAN X,aBLACK FOLDER,aFOLDER,aOPEN FOLDER",
    "aCARD INDEX DIVIDERS,fFILE BOX,aFILE CABINET,aEMPTY NOTE,k PAGE,nD,aNOTE,e PAGE,hD",
    "aEMPTY DOCUMENT,gPAGE,kS,aDOCUMENT,aPAGE,eS,aWASTEBASKET,aSPIRAL NOTE PAD,hCALENDAR PAD",
    "aDESKTOP WINDOW,aMINIMIZE,bAXIMIZE,aOVERLAP,aCLOCKWISE RIGHT AND LEFT SEMICIRCLE ARROWS",
    "bANCELLATION X,aINCREASE FONT SIZE SYMBOL,aDECREASE FONT SIZE SYMBOL,aCOMPRESSION,aOLD KEY",
    "aROLLED-UP NEWSPAPER,aPAGE WITH CIRCLED TEXT,aSTOCK CHART,aDAGGER KNIFE,aLIPS",
    "aSPEAKING HEAD IN SILHOUETTE,aTHREE RAYS ABOVE,lBELOW,lLEFT,lRIGHT,aLEFT SPEECH BUBBLE",
    "aRIGHT SPEECH BUBBLE,aTWO SPEECH BUBBLES,bHREE SPEECH BUBBLES,aLEFT THOUGHT BUBBLE",
    "aRIGHT THOUGHT BUBBLE,aLEFT ANGER BUBBLE,aRIGHT ANGER BUBBLE,aMOOD BUBBLE",
    "aLIGHTNING MOOD BUBBLE,nD,aBALLOT BOX WITH BALLOT,hSCRIPT X,hBOX WITH SCRIPT X,jLD SCRIPT X",
    "jX WITH BOLD SCRIPT X,aLIGHT CHECK MARK,aBALLOT BOX WITH BOLD CHECK,aWORLD MAP,aMOUNT FUJI",
    "aTOKYO TOWER,aSTATUE OF LIBERTY,bILHOUETTE OF JAPAN,aMOYAI,aGRINNING FACE,n WITH SMILING EYES",
    "aFACE WITH TEARS OF JOY,aSMILING FACE WITH OPEN MOUTH,zd AND SMILING EYES,ziCOLD SWEAT",
    "ziTIGHTLY-CLOSED EYES,sHALO,tORNS,aWINKING FACE,aSMILING FACE WITH SMILING EYES",
    "aFACE SAVOURING DELICIOUS FOOD,aRELIEVED FACE,aSMILING FACE WITH HEART-SHAPED EYES,sSUNGLASSES",
    "dRKING FACE,aNEUTRAL FACE,aEXPRESSIONLESS FACE,aUNAMUSED FACE,aFACE WITH COLD SWEAT",
    "aPENSIVE FACE,aCONFUSED FACE,eOUNDED FACE,aKISSING FACE,aFACE THROWING A KISS",
    "aKISSING FACE WITH SMILING EYES,sCLOSED EYES,aFACE WITH STUCK-OUT TONGUE,zb AND WINKING EYE",
    "zgTIGHTLY-CLOSED EYES,aDISAPPOINTED FACE,aWORRIED FACE,aANGRY FACE,aPOUTING FACE,aCRYING FACE",
    "aPERSEVERING FACE,aFACE WITH LOOK OF TRIUMPH,aDISAPPOINTED BUT RELIEVED FACE",
    "aFROWNING FACE WITH OPEN MOUTH,aANGUISHED FACE,aFEARFUL FACE,aWEARY FACE,aSLEEPY FACE",
    "aTIRED FACE,aGRIMACING FACE,aLOUDLY CRYING FACE,aFACE WITH OPEN MOUTH,aHUSHED FACE",
    "aFACE WITH OPEN MOUTH AND COLD SWEAT,fSCREAMING IN FEAR,aASTONISHED FACE,aFLUSHED FACE",
    "aSLEEPING FACE,aDIZZY FACE,aFACE WITHOUT MOUTH,j MEDICAL MASK",
    "aGRINNING CAT FACE WITH SMILING EYES,aCAT FACE WITH TEARS OF JOY",
    "aSMILING CAT FACE WITH OPEN MOUTH,wHEART-SHAPED EYES,aCAT FACE WITH WRY SMILE",
    "aKISSING CAT FACE WITH CLOSED EYES,aPOUTING CAT FACE,aCRYING CAT FACE,aWEARY CAT FACE",
    "aSLIGHTLY FROWNING FACE,jSMILING FACE,aUPSIDE-DOWN FACE,aFACE WITH ROLLING EYES",
    "kNO GOOD GESTURE,kOK GESTURE,aPERSON BOWING DEEPLY,aSEE-NO-EVIL MONKEY,aHEAR-NO-EVIL MONKEY",
    "aSPEAK-NO-EVIL MONKEY,aHAPPY PERSON RAISING ONE HAND,aPERSON RAISING BOTH HANDS IN CELEBRATION",
    "hFROWNING,hWITH POUTING FACE,mFOLDED HANDS,aNORTH WEST POINTING LEAF,aSOUTH WEST POINTING LEAF",
    "aNORTH EAST POINTING LEAF,aSOUTH EAST POINTING LEAF,aTURNED NORTH WEST POINTING LEAF",
    "hSOUTH WEST POINTING LEAF,hNORTH EAST POINTING LEAF,hSOUTH EAST POINTING LEAF",
    "aNORTH WEST POINTING VINE LEAF,aSOUTH WEST POINTING VINE LEAF,aNORTH EAST POINTING VINE LEAF",
    "aSOUTH EAST POINTING VINE LEAF,aHEAVY NORTH WEST POINTING VINE LEAF",
    "gSOUTH WEST POINTING VINE LEAF,gNORTH EAST POINTING VINE LEAF,gSOUTH EAST POINTING VINE LEAF",
    "aNORTH WEST POINTING BUD,aSOUTH WEST POINTING BUD,aNORTH EAST POINTING BUD",
    "aSOUTH EAST POINTING BUD,aHEAVY NORTH WEST POINTING BUD,gSOUTH WEST POINTING BUD",
    "gNORTH EAST POINTING BUD,gSOUTH EAST POINTING BUD,bOLLOW QUILT SQUARE ORNAMENT",
    "zd IN BLACK SQUARE,aSOLID QUILT SQUARE ORNAMENT,zc IN BLACK SQUARE,aLEFTWARDS ROCKET",
    "aUPWARDS ROCKET,aRIGHTWARDS ROCKET,aDOWNWARDS ROCKET,aSCRIPT LIGATURE ET ORNAMENT",
    "aHEAVY SCRIPT LIGATURE ET ORNAMENT,aLIGATURE OPEN ET ORNAMENT,aHEAVY LIGATURE OPEN ET ORNAMENT",
    "gAMPERSAND ORNAMENT,aSWASH AMPERSAND ORNAMENT",
    "bANS-SERIF HEAVY DOUBLE TURNED COMMA QUOTATION MARK ORNAMENT,yCOMMA QUOTATION MARK ORNAMENT",
    "rLOW DOUBLE COMMA QUOTATION MARK ORNAMENT,aHEAVY INTERROBANG ORNAMENT",
    "aSANS-SERIF INTERROBANG ORNAMENT,aHEAVY SANS-SERIF INTERROBANG ORNAMENT,aVERY HEAVY SOLIDUS",
    "lREVERSE SOLIDUS,aCHECKER BOARD,aREVERSE CHECKER BOARD,bOCKET,aHELICOPTER,aSTEAM LOCOMOTIVE",
    "aRAILWAY CAR,aHIGH-SPEED TRAIN,q WITH BULLET NOSE,aTRAIN,aMETRO,aLIGHT RAIL,aSTATION,aTRAM",
    "e CAR,aBUS,aONCOMING BUS,aTROLLEYBUS,aBUS STOP,aMINIBUS,aAMBULANCE,aFIRE ENGINE,aPOLICE CAR",
    "aONCOMING POLICE CAR,aTAXI,aONCOMING TAXI,aAUTOMOBILE,aONCOMING AUTOMOBILE",
    "aRECREATIONAL VEHICLE,aDELIVERY TRUCK,aARTICULATED LORRY,aTRACTOR,aMONORAIL,cUNTAIN RAILWAY",
    "aSUSPENSION RAILWAY,aMOUNTAIN CABLEWAY,aAERIAL TRAMWAY,aSHIP,aROWBOAT,aSPEEDBOAT",
    "aHORIZONTAL TRAFFIC LIGHT,aVERTICAL TRAFFIC LIGHT,aCONSTRUCTION SIGN",
    "aPOLICE CARS REVOLVING LIGHT,aTRIANGULAR FLAG ON POST,aDOOR,aNO ENTRY SIGN,aSMOKING SYMBOL",
    "aNO SMOKING SYMBOL,aPUT LITTER IN ITS PLACE SYMBOL,aDO NOT LITTER SYMBOL,aPOTABLE WATER SYMBOL",
    "aNON-POTABLE WATER SYMBOL,aBICYCLE,aNO BICYCLES,aBICYCLIST,aMOUNTAIN BICYCLIST,aPEDESTRIAN",
    "aNO PEDESTRIANS,aCHILDREN CROSSING,aMENS SYMBOL,aWOMENS SYMBOL,aRESTROOM,aBABY SYMBOL,aTOILET",
    "aWATER CLOSET,aSHOWER,aBATH,eTUB,aPASSPORT CONTROL,aCUSTOMS,aBAGGAGE CLAIM,aLEFT LUGGAGE",
    "aTRIANGLE WITH ROUNDED CORNERS,aPROHIBITED SIGN,aCIRCLED INFORMATION SOURCE,aBOYS SYMBOL",
    "aGIRLS SYMBOL,aCOUCH AND LAMP,aSLEEPING ACCOMMODATION,bHOPPING BAGS,aBELLHOP BELL,cD",
    "aPLACE OF WORSHIP,aOCTAGONAL SIGN,aSHOPPING TROLLEY,bTUPA,aPAGODA,aHINDU TEMPLE,bUT,aELEVATOR",
    "=1F6DDaPLAYGROUND SLIDE,aWHEEL,aRING BUOY,aHAMMER AND WRENCH,aSHIELD,aOIL DRUM,aMOTORWAY",
    "aRAILWAY TRACK,aMOTOR BOAT,aUP-POINTING MILITARY AIRPLANE,mAIRPLANE,mSMALL AIRPLANE",
    "aSMALL AIRPLANE,aNORTHEAST-POINTING AIRPLANE,aAIRPLANE DEPARTURE,jARRIVING,=1F6F0aSATELLITE",
    "aONCOMING FIRE ENGINE,aDIESEL LOCOMOTIVE,aPASSENGER SHIP,aSCOOTER,aMOTOR SCOOTER,aCANOE,aSLED",
    "aFLYING SAUCER,aSKATEBOARD,aAUTO RICKSHAW,aPICKUP TRUCK,aROLLER SKATE",
    "=1F700aALCHEMICAL SYMBOL FOR QUINTESSENCE,wAIR,wFIRE,wEARTH,wWATER,wAQUAFORTIS,zb REGIA,zh-2",
    "zcVITAE,zh-2,wVINEGAR,ze-2,zf3,wSULFUR,wPHILOSOPHERS SULFUR,wBLACK SULFUR,wMERCURY SUBLIMATE",
    "zo-2,zp3,wCINNABAR,wSALT,wNITRE,wVITRIOL,ze-2,wROCK SALT,zg-2,wGOLD,wSILVER,wIRON ORE,zf-2",
    "wCROCUS OF IRON,wREGULUS OF IRON,wCOPPER ORE,wIRON-COPPER ORE,wSUBLIMATE OF COPPER",
    "wCROCUS OF COPPER,zn-2,xOPPER ANTIMONIATE,wSALT OF COPPER ANTIMONIATE",
    "xUBLIMATE OF SALT OF COPPER,wVERDIGRIS,wTIN ORE,wLEAD ORE,wANTIMONY ORE,wSUBLIMATE OF ANTIMONY",
    "xALT OF ANTIMONY,xUBLIMATE OF SALT OF ANTIMONY,wVINEGAR OF ANTIMONY,wREGULUS OF ANTIMONY,zq-2",
    "zdS,ze-2,zf3,zf4,wALKALI,zd-2,wMARCASITE,wSAL-AMMONIAC,wARSENIC,wREALGAR,ze-2,wAURIPIGMENT",
    "wBISMUTH ORE,wTARTAR,zd-2,wQUICK LIME,wBORAX,zc-2,zd3,wALUM,wOIL,wSPIRIT,wTINCTURE,wGUM,wWAX",
    "wPOWDER,wCALX,wTUTTY,wCAPUT MORTUUM,wSCEPTER OF JOVE,wCADUCEUS,wTRIDENT,wSTARRED TRIDENT",
    "wLODESTONE,wSOAP,wURINE,wHORSE DUNG,wASHES,wPOT ASHES,wBRICK,wPOWDERED BRICK,wAMALGAM",
    "wSTRATUM SUPER STRATUM,zs-2,xUBLIMATION,wPRECIPITATE,wDISTILL,zSOLVE,zf-2,wPURIFY,yTREFACTION",
    "wCRUCIBLE,zf-2,zg3,zg4,zg5,wALEMBIC,wBATH OF MARY,zfVAPOURS,wRETORT,wHOUR,wNIGHT,wDAY-NIGHT",
    "wMONTH,wHALF DRAM,zcOUNCE,=1F780aBLACK LEFT-POINTING ISOSCELES RIGHT TRIANGLE",
    "gUP-POINTING ISOSCELES RIGHT TRIANGLE,gRIGHT-POINTING ISOSCELES RIGHT TRIANGLE",
    "gDOWN-POINTING ISOSCELES RIGHT TRIANGLE,gSLIGHTLY SMALL CIRCLE,aMEDIUM BOLD WHITE CIRCLE",
    "aBOLD WHITE CIRCLE,aHEAVY WHITE CIRCLE,aVERY HEAVY WHITE CIRCLE,aEXTREMELY HEAVY WHITE CIRCLE",
    "aWHITE CIRCLE CONTAINING BLACK SMALL CIRCLE,aROUND TARGET,aBLACK TINY SQUARE",
    "gSLIGHTLY SMALL SQUARE,aLIGHT WHITE SQUARE,aMEDIUM WHITE SQUARE,aBOLD WHITE SQUARE",
    "aHEAVY WHITE SQUARE,aVERY HEAVY WHITE SQUARE,aEXTREMELY HEAVY WHITE SQUARE",
    "aWHITE SQUARE CONTAINING BLACK VERY SMALL SQUARE,zfMEDIUM SQUARE,aSQUARE TARGET",
    "aBLACK TINY DIAMOND,gVERY SMALL DIAMOND,gMEDIUM SMALL DIAMOND",
    "aWHITE DIAMOND CONTAINING BLACK VERY SMALL DIAMOND,zgMEDIUM DIAMOND,aDIAMOND TARGET",
    "aBLACK TINY LOZENGE,gVERY SMALL LOZENGE,gMEDIUM SMALL LOZENGE",
    "aWHITE LOZENGE CONTAINING BLACK SMALL LOZENGE,aTHIN GREEK CROSS,aLIGHT GREEK CROSS",
    "aMEDIUM GREEK CROSS,aBOLD GREEK CROSS,aVERY BOLD GREEK CROSS,fHEAVY GREEK CROSS",
    "aEXTREMELY HEAVY GREEK CROSS,aTHIN SALTIRE,aLIGHT SALTIRE,aMEDIUM SALTIRE,aBOLD SALTIRE",
    "aHEAVY SALTIRE,aVERY HEAVY SALTIRE,aEXTREMELY HEAVY SALTIRE,aLIGHT FIVE SPOKED ASTERISK",
    "aMEDIUM FIVE SPOKED ASTERISK,aBOLD FIVE SPOKED ASTERISK,aHEAVY FIVE SPOKED ASTERISK",
    "aVERY HEAVY FIVE SPOKED ASTERISK,aEXTREMELY HEAVY FIVE SPOKED ASTERISK",
    "aLIGHT SIX SPOKED ASTERISK,aMEDIUM SIX SPOKED ASTERISK,aBOLD SIX SPOKED ASTERISK",
    "aHEAVY SIX SPOKED ASTERISK,aVERY HEAVY SIX SPOKED ASTERISK",
    "aEXTREMELY HEAVY SIX SPOKED ASTERISK,aLIGHT EIGHT SPOKED ASTERISK",
    "aMEDIUM EIGHT SPOKED ASTERISK,aBOLD EIGHT SPOKED ASTERISK,aHEAVY EIGHT SPOKED ASTERISK",
    "aVERY HEAVY EIGHT SPOKED ASTERISK,aLIGHT THREE POINTED BLACK STAR",
    "aMEDIUM THREE POINTED BLACK STAR,aTHREE POINTED BLACK STAR,aMEDIUM THREE POINTED PINWHEEL STAR",
    "aLIGHT FOUR POINTED BLACK STAR,aMEDIUM FOUR POINTED BLACK STAR,aFOUR POINTED BLACK STAR",
    "aMEDIUM FOUR POINTED PINWHEEL STAR,aREVERSE LIGHT FOUR POINTED PINWHEEL STAR",
    "aLIGHT FIVE POINTED BLACK STAR,aHEAVY FIVE POINTED BLACK STAR,aMEDIUM SIX POINTED BLACK STAR",
    "aHEAVY SIX POINTED BLACK STAR,aSIX POINTED PINWHEEL STAR,aMEDIUM EIGHT POINTED BLACK STAR",
    "aHEAVY EIGHT POINTED BLACK STAR,aVERY HEAVY EIGHT POINTED BLACK STAR",
    "aHEAVY EIGHT POINTED PINWHEEL STAR,aLIGHT TWELVE POINTED BLACK STAR",
    "aHEAVY TWELVE POINTED BLACK STAR,vPINWHEEL STAR,aCIRCLED TRIANGLE,aNEGATIVE CIRCLED TRIANGLE",
    "aCIRCLED SQUARE,aNEGATIVE CIRCLED SQUARE,=1F7E0aLARGE ORANGE CIRCLE,gYELLOW CIRCLE",
    "gGREEN CIRCLE,gPURPLE CIRCLE,gBROWN CIRCLE,gRED SQUARE,gBLUE SQUARE,gORANGE SQUARE",
    "gYELLOW SQUARE,gGREEN SQUARE,gPURPLE SQUARE,gBROWN SQUARE,=1F7F0aHEAVY EQUALS SIGN",
    "=1F800aLEFTWARDS ARROW WITH SMALL TRIANGLE ARROWHEAD",
    "aUPWARDS ARROW WITH SMALL TRIANGLE ARROWHEAD,aRIGHTWARDS ARROW WITH SMALL TRIANGLE ARROWHEAD",
    "aDOWNWARDS ARROW WITH SMALL TRIANGLE ARROWHEAD,aLEFTWARDS ARROW WITH MEDIUM TRIANGLE ARROWHEAD",
    "aUPWARDS ARROW WITH MEDIUM TRIANGLE ARROWHEAD,aRIGHTWARDS ARROW WITH MEDIUM TRIANGLE ARROWHEAD",
    "aDOWNWARDS ARROW WITH MEDIUM TRIANGLE ARROWHEAD,aLEFTWARDS ARROW WITH LARGE TRIANGLE ARROWHEAD",
    "aUPWARDS ARROW WITH LARGE TRIANGLE ARROWHEAD,aRIGHTWARDS ARROW WITH LARGE TRIANGLE ARROWHEAD",
    "aDOWNWARDS ARROW WITH LARGE TRIANGLE ARROWHEAD",
    "=1F810aLEFTWARDS ARROW WITH SMALL EQUILATERAL ARROWHEAD",
    "aUPWARDS ARROW WITH SMALL EQUILATERAL ARROWHEAD",
    "aRIGHTWARDS ARROW WITH SMALL EQUILATERAL ARROWHEAD",
    "aDOWNWARDS ARROW WITH SMALL EQUILATERAL ARROWHEAD,aLEFTWARDS ARROW WITH EQUILATERAL ARROWHEAD",
    "aUPWARDS ARROW WITH EQUILATERAL ARROWHEAD,aRIGHTWARDS ARROW WITH EQUILATERAL ARROWHEAD",
    "aDOWNWARDS ARROW WITH EQUILATERAL ARROWHEAD,aHEAVY LEFTWARDS ARROW WITH EQUILATERAL ARROWHEAD",
    "gUPWARDS ARROW WITH EQUILATERAL ARROWHEAD,gRIGHTWARDS ARROW WITH EQUILATERAL ARROWHEAD",
    "gDOWNWARDS ARROW WITH EQUILATERAL ARROWHEAD,gLEFTWARDS ARROW WITH LARGE EQUILATERAL ARROWHEAD",
    "gUPWARDS ARROW WITH LARGE EQUILATERAL ARROWHEAD",
    "gRIGHTWARDS ARROW WITH LARGE EQUILATERAL ARROWHEAD",
    "gDOWNWARDS ARROW WITH LARGE EQUILATERAL ARROWHEAD",
    "aLEFTWARDS TRIANGLE-HEADED ARROW WITH NARROW SHAFT",
    "aUPWARDS TRIANGLE-HEADED ARROW WITH NARROW SHAFT",
    "aRIGHTWARDS TRIANGLE-HEADED ARROW WITH NARROW SHAFT",
    "aDOWNWARDS TRIANGLE-HEADED ARROW WITH NARROW SHAFT",
    "aLEFTWARDS TRIANGLE-HEADED ARROW WITH MEDIUM SHAFT",
    "aUPWARDS TRIANGLE-HEADED ARROW WITH MEDIUM SHAFT",
    "aRIGHTWARDS TRIANGLE-HEADED ARROW WITH MEDIUM SHAFT",
    "aDOWNWARDS TRIANGLE-HEADED ARROW WITH MEDIUM SHAFT",
    "aLEFTWARDS TRIANGLE-HEADED ARROW WITH BOLD SHAFT",
    "aUPWARDS TRIANGLE-HEADED ARROW WITH BOLD SHAFT",
    "aRIGHTWARDS TRIANGLE-HEADED ARROW WITH BOLD SHAFT",
    "aDOWNWARDS TRIANGLE-HEADED ARROW WITH BOLD SHAFT",
    "aLEFTWARDS TRIANGLE-HEADED ARROW WITH HEAVY SHAFT",
    "aUPWARDS TRIANGLE-HEADED ARROW WITH HEAVY SHAFT",
    "aRIGHTWARDS TRIANGLE-HEADED ARROW WITH HEAVY SHAFT",
    "aDOWNWARDS TRIANGLE-HEADED ARROW WITH HEAVY SHAFT",
    "aLEFTWARDS TRIANGLE-HEADED ARROW WITH VERY HEAVY SHAFT",
    "aUPWARDS TRIANGLE-HEADED ARROW WITH VERY HEAVY SHAFT",
    "aRIGHTWARDS TRIANGLE-HEADED ARROW WITH VERY HEAVY SHAFT",
    "aDOWNWARDS TRIANGLE-HEADED ARROW WITH VERY HEAVY SHAFT,aLEFTWARDS FINGER-POST ARROW",
    "aUPWARDS FINGER-POST ARROW,aRIGHTWARDS FINGER-POST ARROW,aDOWNWARDS FINGER-POST ARROW",
    "aLEFTWARDS SQUARED ARROW,aUPWARDS SQUARED ARROW,aRIGHTWARDS SQUARED ARROW",
    "aDOWNWARDS SQUARED ARROW,aLEFTWARDS COMPRESSED ARROW,aUPWARDS COMPRESSED ARROW",
    "aRIGHTWARDS COMPRESSED ARROW,aDOWNWARDS COMPRESSED ARROW,aLEFTWARDS HEAVY COMPRESSED ARROW",
    "aUPWARDS HEAVY COMPRESSED ARROW,aRIGHTWARDS HEAVY COMPRESSED ARROW",
    "aDOWNWARDS HEAVY COMPRESSED ARROW,aLEFTWARDS HEAVY ARROW,aUPWARDS HEAVY ARROW",
    "aRIGHTWARDS HEAVY ARROW,aDOWNWARDS HEAVY ARROW,=1F850aLEFTWARDS SANS-SERIF ARROW",
    "aUPWARDS SANS-SERIF ARROW,aRIGHTWARDS SANS-SERIF ARROW,aDOWNWARDS SANS-SERIF ARROW",
    "aNORTH WEST SANS-SERIF ARROW,gEAST SANS-SERIF ARROW,aSOUTH EAST SANS-SERIF ARROW",
    "gWEST SANS-SERIF ARROW,aLEFT RIGHT SANS-SERIF ARROW,aUP DOWN SANS-SERIF ARROW",
    "=1F860aWIDE-HEADED LEFTWARDS LIGHT BARB ARROW,mUPWARDS LIGHT BARB ARROW",
    "mRIGHTWARDS LIGHT BARB ARROW,mDOWNWARDS LIGHT BARB ARROW,mNORTH WEST LIGHT BARB ARROW",
    "sEAST LIGHT BARB ARROW,mSOUTH EAST LIGHT BARB ARROW,sWEST LIGHT BARB ARROW",
    "mLEFTWARDS BARB ARROW,mUPWARDS BARB ARROW,mRIGHTWARDS BARB ARROW,mDOWNWARDS BARB ARROW",
    "mNORTH WEST BARB ARROW,sEAST BARB ARROW,mSOUTH EAST BARB ARROW,sWEST BARB ARROW",
    "mLEFTWARDS MEDIUM BARB ARROW,mUPWARDS MEDIUM BARB ARROW,mRIGHTWARDS MEDIUM BARB ARROW",
    "mDOWNWARDS MEDIUM BARB ARROW,mNORTH WEST MEDIUM BARB ARROW,sEAST MEDIUM BARB ARROW",
    "mSOUTH EAST MEDIUM BARB ARROW,sWEST MEDIUM BARB ARROW,mLEFTWARDS HEAVY BARB ARROW",
    "mUPWARDS HEAVY BARB ARROW,mRIGHTWARDS HEAVY BARB ARROW,mDOWNWARDS HEAVY BARB ARROW",
    "mNORTH WEST HEAVY BARB ARROW,sEAST HEAVY BARB ARROW,mSOUTH EAST HEAVY BARB ARROW",
    "sWEST HEAVY BARB ARROW,mLEFTWARDS VERY HEAVY BARB ARROW,mUPWARDS VERY HEAVY BARB ARROW",
    "mRIGHTWARDS VERY HEAVY BARB ARROW,mDOWNWARDS VERY HEAVY BARB ARROW",
    "mNORTH WEST VERY HEAVY BARB ARROW,sEAST VERY HEAVY BARB ARROW",
    "mSOUTH EAST VERY HEAVY BARB ARROW,sWEST VERY HEAVY BARB ARROW",
    "=1F890aLEFTWARDS TRIANGLE ARROWHEAD,aUPWARDS TRIANGLE ARROWHEAD,aRIGHTWARDS TRIANGLE ARROWHEAD",
    "aDOWNWARDS TRIANGLE ARROWHEAD,aLEFTWARDS WHITE ARROW WITHIN TRIANGLE ARROWHEAD",
    "aUPWARDS WHITE ARROW WITHIN TRIANGLE ARROWHEAD",
    "aRIGHTWARDS WHITE ARROW WITHIN TRIANGLE ARROWHEAD",
    "aDOWNWARDS WHITE ARROW WITHIN TRIANGLE ARROWHEAD,aLEFTWARDS ARROW WITH NOTCHED TAIL",
    "aUPWARDS ARROW WITH NOTCHED TAIL,aRIGHTWARDS ARROW WITH NOTCHED TAIL",
    "aDOWNWARDS ARROW WITH NOTCHED TAIL,aHEAVY ARROW SHAFT WIDTH ONE,yTWO THIRDS,yONE HALF,zdTHIRD",
    "aLEFTWARDS BOTTOM-SHADED WHITE ARROW,aRIGHTWARDS BOTTOM SHADED WHITE ARROW",
    "aLEFTWARDS TOP SHADED WHITE ARROW,aRIGHTWARDS TOP SHADED WHITE ARROW",
    "aLEFTWARDS LEFT-SHADED WHITE ARROW,aRIGHTWARDS RIGHT-SHADED WHITE ARROW",
    "aLEFTWARDS RIGHT-SHADED WHITE ARROW,aRIGHTWARDS LEFT-SHADED WHITE ARROW",
    "aLEFTWARDS BACK-TILTED SHADOWED WHITE ARROW,aRIGHTWARDS BACK-TILTED SHADOWED WHITE ARROW",
    "aLEFTWARDS FRONT-TILTED SHADOWED WHITE ARROW,aRIGHTWARDS FRONT-TILTED SHADOWED WHITE ARROW",
    "aWHITE ARROW SHAFT WIDTH ONE,yTWO THIRDS,=1F8B0aARROW POINTING UPWARDS THEN NORTH WEST",
    "pRIGHTWARDS THEN CURVING SOUTH WEST,=1F900aCIRCLED CROSS FORMEE WITH FOUR DOTS,zbTWO DOTS,tE",
    "aLEFT HALF CIRCLE WITH FOUR DOTS,wTHREE DOTS,xWO DOTS,wDOT,pE,aDOWNWARD FACING HOOK",
    "qNOTCHED HOOK,qHOOK WITH DOT,qNOTCHED HOOK WITH DOT,aPINCHED FINGERS,aWHITE HEART,aBROWN HEART",
    "aPINCHING HAND,aZIPPER-MOUTH FACE,aMONEY-MOUTH FACE,aFACE WITH THERMOMETER,aNERD FACE",
    "aTHINKING FACE,aFACE WITH HEAD-BANDAGE,aROBOT FACE,aHUGGING FACE,aSIGN OF THE HORNS",
    "aCALL ME HAND,aRAISED BACK OF HAND,aLEFT-FACING FIST,aRIGHT-FACING FIST,aHANDSHAKE",
    "e WITH INDEX AND MIDDLE FINGERS CROSSED,aI LOVE YOU HAND SIGN,aFACE WITH COWBOY HAT",
    "aCLOWN FACE,aNAUSEATED FACE,aROLLING ON THE FLOOR LAUGHING,aDROOLING FACE,aLYING FACE",
    "aFACE PALM,aSNEEZING FACE,aFACE WITH ONE EYEBROW RAISED,aGRINNING FACE WITH STAR EYES",
    "tONE LARGE AND ONE SMALL EYE,aFACE WITH FINGER COVERING CLOSED LIPS",
    "aSERIOUS FACE WITH SYMBOLS COVERING MOUTH",
    "bMILING FACE WITH SMILING EYES AND HAND COVERING MOUTH,aFACE WITH OPEN MOUTH VOMITING",
    "aSHOCKED FACE WITH EXPLODING HEAD,aPREGNANT WOMAN,aBREAST-FEEDING,aPALMS UP TOGETHER,aSELFIE",
    "aPRINCE,aMAN IN TUXEDO,bOTHER CHRISTMAS,aSHRUG,aPERSON DOING CARTWHEEL,aJUGGLING,aFENCER",
    "aMODERN PENTATHLON,aWRESTLERS,bATER POLO,aHANDBALL,aDIVING MASK,aWILTED FLOWER",
    "aDRUM WITH DRUMSTICKS,aCLINKING GLASSES,aTUMBLER GLASS,aSPOON,aGOAL NET,aRIFLE",
    "aFIRST PLACE MEDAL,aSECOND PLACE MEDAL,aTHIRD PLACE MEDAL,aBOXING GLOVE,aMARTIAL ARTS UNIFORM",
    "aCURLING STONE,aLACROSSE STICK AND BALL,aSOFTBALL,aFLYING DISC,aCROISSANT,aAVOCADO,aCUCUMBER",
    "aBACON,aPOTATO,aCARROT,aBAGUETTE BREAD,aGREEN SALAD,aSHALLOW PAN OF FOOD,bTUFFED FLATBREAD",
    "aEGG,aGLASS OF MILK,aPEANUTS,aKIWIFRUIT,aPANCAKES,aDUMPLING,aFORTUNE COOKIE,aTAKEOUT BOX",
    "aCHOPSTICKS,aBOWL WITH SPOON,aCUP WITH STRAW,bOCONUT,aBROCCOLI,aPIE,bRETZEL,aCUT OF MEAT",
    "aSANDWICH,aCANNED FOOD,aLEAFY GREEN,aMANGO,bOON CAKE,aBAGEL",
    "aSMILING FACE WITH SMILING EYES AND THREE HEARTS,aYAWNING FACE,aSMILING FACE WITH TEAR",
    "aFACE WITH PARTY HORN AND PARTY HAT,kUNEVEN EYES AND WAVY MOUTH,aOVERHEATED FACE",
    "aFREEZING FACE,aNINJA,aDISGUISED FACE,aFACE HOLDING BACK TEARS,fWITH PLEADING EYES,aSARI",
    "aLAB COAT,aGOGGLES,aHIKING BOOT,aFLAT SHOE,aCRAB,aLION FACE,aSCORPION,aTURKEY,aUNICORN FACE",
    "aEAGLE,aDUCK,aBAT,aSHARK,aOWL,aFOX FACE,aBUTTERFLY,aDEER,aGORILLA,aLIZARD,aRHINOCEROS,aSHRIMP",
    "bQUID,aGIRAFFE FACE,aZEBRA FACE,aHEDGEHOG,aSAUROPOD,aT-REX,aCRICKET,aKANGAROO,aLLAMA,aPEACOCK",
    "aHIPPOPOTAMUS,aPARROT,aRACCOON,aLOBSTER,aMOSQUITO,bICROBE,aBADGER,aSWAN,aMAMMOTH,aDODO,aSLOTH",
    "aOTTER,bRANGUTAN,aSKUNK,aFLAMINGO,aOYSTER,aBEAVER,bISON,aSEAL,aGUIDE DOG,aPROBING CANE",
    "aEMOJI COMPONENT RED HAIR,qCURLY HAIR,qBALD,qWHITE HAIR,aBONE,aLEG,aFOOT,aTOOTH,aSUPERHERO",
    "fVILLAIN,bAFETY VEST,aEAR WITH HEARING AID,aMOTORIZED WHEELCHAIR,bANUAL WHEELCHAIR",
    "bECHANICAL ARM,lLEG,aCHEESE WEDGE,bUPCAKE,aSALT SHAKER,aBEVERAGE BOX,aGARLIC,aONION,aFALAFEL",
    "aWAFFLE,aBUTTER,aMATE DRINK,aICE CUBE,aBUBBLE TEA,aTROLL,aSTANDING PERSON,aKNEELING PERSON",
    "aDEAF PERSON,aFACE WITH MONOCLE,aADULT,aCHILD,aOLDER ADULT,aBEARDED PERSON",
    "aPERSON WITH HEADSCARF,hIN STEAMY ROOM,hCLIMBING,hIN LOTUS POSITION,aMAGE,aFAIRY,aVAMPIRE",
    "aMERPERSON,aELF,aGENIE,aZOMBIE,aBRAIN,aORANGE HEART,aBILLED CAP,aSCARF,aGLOVES,aCOAT,aSOCKS",
    "aRED GIFT ENVELOPE,aFIRECRACKER,aJIGSAW PUZZLE PIECE,aTEST TUBE,aPETRI DISH,aDNA DOUBLE HELIX",
    "aCOMPASS,aABACUS,aFIRE EXTINGUISHER,aTOOLBOX,aBRICK,aMAGNET,aLUGGAGE,bOTION BOTTLE",
    "aSPOOL OF THREAD,aBALL OF YARN,aSAFETY PIN,aTEDDY BEAR,aBROOM,bASKET,aROLL OF PAPER",
    "aBAR OF SOAP,aSPONGE,aRECEIPT,aNAZAR AMULET,bEUTRAL CHESS KING,oQUEEN,oROOK,oBISHOP,oKNIGHT",
    "oPAWN,aWHITE CHESS KNIGHT ROTATED FORTY-FIVE DEGREES",
    "aBLACK CHESS KNIGHT ROTATED FORTY-FIVE DEGREES",
    "aNEUTRAL CHESS KNIGHT ROTATED FORTY-FIVE DEGREES,aWHITE CHESS KING ROTATED NINETY DEGREES",
    "mQUEEN ROTATED NINETY DEGREES,mROOK ROTATED NINETY DEGREES,mBISHOP ROTATED NINETY DEGREES",
    "mKNIGHT ROTATED NINETY DEGREES,mPAWN ROTATED NINETY DEGREES",
    "aBLACK CHESS KING ROTATED NINETY DEGREES,mQUEEN ROTATED NINETY DEGREES",
    "mROOK ROTATED NINETY DEGREES,mBISHOP ROTATED NINETY DEGREES,mKNIGHT ROTATED NINETY DEGREES",
    "mPAWN ROTATED NINETY DEGREES,aNEUTRAL CHESS KING ROTATED NINETY DEGREES",
    "oQUEEN ROTATED NINETY DEGREES,oROOK ROTATED NINETY DEGREES,oBISHOP ROTATED NINETY DEGREES",
    "oKNIGHT ROTATED NINETY DEGREES,oPAWN ROTATED NINETY DEGREES",
    "aWHITE CHESS KNIGHT ROTATED ONE HUNDRED THIRTY-FIVE DEGREES",
    "aBLACK CHESS KNIGHT ROTATED ONE HUNDRED THIRTY-FIVE DEGREES",
    "aNEUTRAL CHESS KNIGHT ROTATED ONE HUNDRED THIRTY-FIVE DEGREES,aWHITE CHESS TURNED KING,tQUEEN",
    "tROOK,tBISHOP,tKNIGHT,tPAWN,aBLACK CHESS TURNED KING,tQUEEN,tROOK,tBISHOP,tKNIGHT,tPAWN",
    "aNEUTRAL CHESS TURNED KING,vQUEEN,vROOK,vBISHOP,vKNIGHT,vPAWN",
    "aWHITE CHESS KNIGHT ROTATED TWO HUNDRED TWENTY-FIVE DEGREES",
    "aBLACK CHESS KNIGHT ROTATED TWO HUNDRED TWENTY-FIVE DEGREES",
    "aNEUTRAL CHESS KNIGHT ROTATED TWO HUNDRED TWENTY-FIVE DEGREES",
    "aWHITE CHESS KING ROTATED TWO HUNDRED SEVENTY DEGREES",
    "mQUEEN ROTATED TWO HUNDRED SEVENTY DEGREES,mROOK ROTATED TWO HUNDRED SEVENTY DEGREES",
    "mBISHOP ROTATED TWO HUNDRED SEVENTY DEGREES,mKNIGHT ROTATED TWO HUNDRED SEVENTY DEGREES",
    "mPAWN ROTATED TWO HUNDRED SEVENTY DEGREES",
    "aBLACK CHESS KING ROTATED TWO HUNDRED SEVENTY DEGREES",
    "mQUEEN ROTATED TWO HUNDRED SEVENTY DEGREES,mROOK ROTATED TWO HUNDRED SEVENTY DEGREES",
    "mBISHOP ROTATED TWO HUNDRED SEVENTY DEGREES,mKNIGHT ROTATED TWO HUNDRED SEVENTY DEGREES",
    "mPAWN ROTATED TWO HUNDRED SEVENTY DEGREES",
    "aNEUTRAL CHESS KING ROTATED TWO HUNDRED SEVENTY DEGREES",
    "oQUEEN ROTATED TWO HUNDRED SEVENTY DEGREES,oROOK ROTATED TWO HUNDRED SEVENTY DEGREES",
    "oBISHOP ROTATED TWO HUNDRED SEVENTY DEGREES,oKNIGHT ROTATED TWO HUNDRED SEVENTY DEGREES",
    "oPAWN ROTATED TWO HUNDRED SEVENTY DEGREES",
    "aWHITE CHESS KNIGHT ROTATED THREE HUNDRED FIFTEEN DEGREES",
    "aBLACK CHESS KNIGHT ROTATED THREE HUNDRED FIFTEEN DEGREES",
    "aNEUTRAL CHESS KNIGHT ROTATED THREE HUNDRED FIFTEEN DEGREES,aWHITE CHESS EQUIHOPPER",
    "aBLACK CHESS EQUIHOPPER,aNEUTRAL CHESS EQUIHOPPER",
    "aWHITE CHESS EQUIHOPPER ROTATED NINETY DEGREES,aBLACK CHESS EQUIHOPPER ROTATED NINETY DEGREES",
    "aNEUTRAL CHESS EQUIHOPPER ROTATED NINETY DEGREES,aWHITE CHESS KNIGHT-QUEEN,tROOK,tBISHOP",
    "aBLACK CHESS KNIGHT-QUEEN,tROOK,tBISHOP,=1FA60aXIANGQI RED GENERAL,mMANDARIN,mELEPHANT,mHORSE",
    "mCHARIOT,nANNON,mSOLDIER,iBLACK GENERAL,oMANDARIN,oELEPHANT,oHORSE,oCHARIOT,pANNON,oSOLDIER",
    "=1FA70aBALLET SHOES,aONE-PIECE SWIMSUIT,aBRIEFS,aSHORTS,aTHONG SANDAL,=1FA78aDROP OF BLOOD",
    "aADHESIVE BANDAGE,aSTETHOSCOPE,aX-RAY,aCRUTCH,=1FA80aYO-YO,aKITE,aPARACHUTE,aBOOMERANG",
    "aMAGIC WAND,aPINATA,aNESTING DOLLS,=1FA90aRINGED PLANET,aCHAIR,aRAZOR,aAXE,aDIYA LAMP,aBANJO",
    "aMILITARY HELMET,aACCORDION,aLONG DRUM,aCOIN,bARPENTRY SAW,aSCREWDRIVER,aLADDER,aHOOK,aMIRROR",
    "aWINDOW,aPLUNGER,aSEWING NEEDLE,aKNOT,aBUCKET,aMOUSE TRAP,aTOOTHBRUSH,aHEADSTONE,aPLACARD",
    "aROCK,aMIRROR BALL,aIDENTIFICATION CARD,aLOW BATTERY,aHAMSA,=1FAB0aFLY,aWORM,aBEETLE",
    "aCOCKROACH,aPOTTED PLANT,aWOOD,aFEATHER,aLOTUS,aCORAL,aEMPTY NEST,aNEST WITH EGGS",
    "=1FAC0aANATOMICAL HEART,aLUNGS,aPEOPLE HUGGING,bREGNANT MAN,jPERSON,bERSON WITH CROWN",
    "=1FAD0aBLUEBERRIES,bELL PEPPER,aOLIVE,aFLATBREAD,aTAMALE,aFONDUE,aTEAPOT,aPOURING LIQUID",
    "aBEANS,aJAR,=1FAE0aMELTING FACE,aSALUTING FACE,aFACE WITH OPEN EYES AND HAND OVER MOUTH",
    "kPEEKING EYE,kDIAGONAL MOUTH,aDOTTED LINE FACE,aBITING LIP,bUBBLES",
    "=1FAF0aHAND WITH INDEX FINGER AND THUMB CROSSED,aRIGHTWARDS HAND,aLEFTWARDS HAND",
    "aPALM DOWN HAND,fUP HAND,aINDEX POINTING AT THE VIEWER,aHEART HANDS,=1FB00aBLOCK SEXTANT-1,o2",
    "o12,o3,o13,o23,o123,o4,o14,o24,o124,o34,o134,o234,o1234,o5,o15,o25,o125,o35,o235,o1235,o45",
    "o145,o245,o1245,o345,o1345,o2345,o12345,o6,o16,o26,o126,o36,o136,o236,o1236,o46,o146,p246,o346",
    "o1346,o2346,o12346,o56,o156,o256,o1256,o356,o1356,o2356,o12356,o456,o1456,o2456,o12456,o3456",
    "o13456,o23456,aLOWER LEFT BLOCK DIAGONAL LOWER MIDDLE LEFT TO LOWER CENTRE,zzdRIGHT",
    "zbUPPER MIDDLE LEFT TO LOWER CENTRE,zzdRIGHT,zhLEFT TO LOWER CENTRE",
    "gRIGHT BLOCK DIAGONAL UPPER MIDDLE LEFT TO UPPER CENTRE,zzeRIGHT",
    "zcLOWER MIDDLE LEFT TO UPPER CENTRE,zzeRIGHT,ziLEFT TO UPPER CENTRE",
    "ziMIDDLE LEFT TO UPPER MIDDLE RIGHT,ziCENTRE TO LOWER MIDDLE RIGHT",
    "ziLEFT TO LOWER MIDDLE RIGHT,ziCENTRE TO UPPER MIDDLE RIGHT,ziLEFT TO UPPER MIDDLE RIGHT",
    "ziCENTRE TO UPPER RIGHT,gLEFT BLOCK DIAGONAL UPPER CENTRE TO UPPER MIDDLE RIGHT",
    "zhLEFT TO UPPER MIDDLE RIGHT,zhCENTRE TO LOWER MIDDLE RIGHT,zhLEFT TO LOWER MIDDLE RIGHT",
    "zhCENTRE TO LOWER RIGHT,zhMIDDLE LEFT TO LOWER MIDDLE RIGHT",
    "aUPPER RIGHT BLOCK DIAGONAL LOWER MIDDLE LEFT TO LOWER CENTRE,zzeRIGHT",
    "zcUPPER MIDDLE LEFT TO LOWER CENTRE,zzeRIGHT,ziLEFT TO LOWER CENTRE",
    "gLEFT BLOCK DIAGONAL UPPER MIDDLE LEFT TO UPPER CENTRE,zzdRIGHT",
    "zbLOWER MIDDLE LEFT TO UPPER CENTRE,zzdRIGHT,zhLEFT TO UPPER CENTRE",
    "zhMIDDLE LEFT TO UPPER MIDDLE RIGHT,zhCENTRE TO LOWER MIDDLE RIGHT",
    "zhLEFT TO LOWER MIDDLE RIGHT,zhCENTRE TO UPPER MIDDLE RIGHT,zhLEFT TO UPPER MIDDLE RIGHT",
    "zhCENTRE TO UPPER RIGHT,gRIGHT BLOCK DIAGONAL UPPER CENTRE TO UPPER MIDDLE RIGHT",
    "ziLEFT TO UPPER MIDDLE RIGHT,ziCENTRE TO LOWER MIDDLE RIGHT,ziLEFT TO LOWER MIDDLE RIGHT",
    "ziCENTRE TO LOWER RIGHT,ziMIDDLE LEFT TO LOWER MIDDLE RIGHT",
    "gAND RIGHT AND LOWER TRIANGULAR THREE QUARTERS BLOCK",
    "aLEFT AND LOWER AND RIGHT TRIANGULAR THREE QUARTERS BLOCK",
    "aUPPER AND LEFT AND LOWER TRIANGULAR THREE QUARTERS BLOCK",
    "aLEFT AND UPPER AND RIGHT TRIANGULAR THREE QUARTERS BLOCK,fTRIANGULAR ONE QUARTER BLOCK",
    "aUPPER TRIANGULAR ONE QUARTER BLOCK,aRIGHT TRIANGULAR ONE QUARTER BLOCK",
    "aLOWER TRIANGULAR ONE QUARTER BLOCK,aVERTICAL ONE EIGHTH BLOCK-2,zb3,zb4,zb5,zb6,zb7",
    "aHORIZONTAL ONE EIGHTH BLOCK-2,zd3,zd4,zd5,zd6,zd7,aLEFT AND LOWER ONE EIGHTH BLOCK",
    "jUPPER ONE EIGHTH BLOCK,aRIGHT AND UPPER ONE EIGHTH BLOCK,kLOWER ONE EIGHTH BLOCK",
    "aUPPER AND LOWER ONE EIGHTH BLOCK,aHORIZONTAL ONE EIGHTH BLOCK-1358,aUPPER ONE QUARTER BLOCK",
    "gTHREE EIGHTHS BLOCK,gFIVE EIGHTHS BLOCK,gTHREE QUARTERS BLOCK,gSEVEN EIGHTHS BLOCK",
    "aRIGHT ONE QUARTER BLOCK,gTHREE EIGHTHS BLOCK,gFIVE EIGHTHS BLOCK,gTHREE QUARTERS BLOCK",
    "gSEVEN EIGHTHS BLOCK,aLEFT HALF MEDIUM SHADE,aRIGHT HALF MEDIUM SHADE,aUPPER HALF MEDIUM SHADE",
    "aLOWER HALF MEDIUM SHADE,aINVERSE MEDIUM SHADE",
    "aUPPER HALF BLOCK AND LOWER HALF INVERSE MEDIUM SHADE",
    "lINVERSE MEDIUM SHADE AND LOWER HALF BLOCK",
    "=1FB94aLEFT HALF INVERSE MEDIUM SHADE AND RIGHT HALF BLOCK,aCHECKER BOARD FILL",
    "aINVERSE CHECKER BOARD FILL,aHEAVY HORIZONTAL FILL,aUPPER LEFT TO LOWER RIGHT FILL",
    "gRIGHT TO LOWER LEFT FILL,gAND LOWER TRIANGULAR HALF BLOCK",
    "aLEFT AND RIGHT TRIANGULAR HALF BLOCK,aUPPER LEFT TRIANGULAR MEDIUM SHADE",
    "gRIGHT TRIANGULAR MEDIUM SHADE,aLOWER RIGHT TRIANGULAR MEDIUM SHADE",
    "gLEFT TRIANGULAR MEDIUM SHADE,aBOX DRAWINGS LIGHT DIAGONAL UPPER CENTRE TO MIDDLE LEFT",
    "zzbRIGHT,zdMIDDLE LEFT TO LOWER CENTRE,zkRIGHT TO LOWER CENTRE",
    "zdUPPER CENTRE TO MIDDLE LEFT TO LOWER CENTRE,zzbRIGHT TO LOWER CENTRE",
    "zdMIDDLE LEFT TO LOWER CENTRE TO MIDDLE RIGHT,zsUPPER CENTRE TO MIDDLE RIGHT",
    "zdUPPER CENTRE TO MIDDLE LEFT AND MIDDLE RIGHT TO LOWER CENTRE",
    "zzbRIGHT AND MIDDLE LEFT TO LOWER CENTRE,zzhTO LOWER CENTRE TO MIDDLE LEFT",
    "zzbLEFT TO LOWER CENTRE TO MIDDLE RIGHT",
    "zdMIDDLE LEFT TO UPPER CENTRE TO MIDDLE RIGHT TO LOWER CENTRE",
    "zkRIGHT TO UPPER CENTRE TO MIDDLE LEFT TO LOWER CENTRE,zdDIAMOND",
    "tHORIZONTAL WITH VERTICAL STROKE,aARROWHEAD-SHAPED POINTER,aINVERSE CHECK MARK",
    "aLEFT HALF RUNNING MAN,aRIGHT HALF RUNNING MAN,aINVERSE DOWNWARDS ARROW WITH TIP LEFTWARDS",
    "aLEFTWARDS ARROW AND UPPER AND LOWER ONE EIGHTH BLOCK",
    "aRIGHTWARDS ARROW AND UPPER AND LOWER ONE EIGHTH BLOCK",
    "aDOWNWARDS ARROW AND RIGHT ONE EIGHTH BLOCK,aUPWARDS ARROW AND RIGHT ONE EIGHTH BLOCK",
    "aLEFT HALF FOLDER,aRIGHT HALF FOLDER,aVOIDED GREEK CROSS,aRIGHT OPEN SQUARED DOT",
    "aNEGATIVE DIAGONAL CROSS,sMIDDLE RIGHT TO LOWER CENTRE,sDIAMOND",
    "aWHITE HEAVY SALTIRE WITH ROUNDED CORNERS,aLEFT THIRD WHITE RIGHT POINTING INDEX",
    "aMIDDLE THIRD WHITE RIGHT POINTING INDEX,aRIGHT THIRD WHITE RIGHT POINTING INDEX",
    "aNEGATIVE SQUARED QUESTION MARK,aSTICK FIGURE,m WITH ARMS RAISED,nLEANING LEFT,vRIGHT",
    "nWITH DRESS,aWHITE UP-POINTING CHEVRON,=1FBF0aSEGMENTED DIGIT ZERO,qONE,qTWO,rHREE,qFOUR,rIVE",
    "qSIX,rEVEN,qEIGHT,qNINE,=E0001aLANGUAGE TAG,=E0020aTAG SPACE,eEXCLAMATION MARK,eQUOTATION MARK",
    "eNUMBER SIGN,eDOLLAR SIGN,ePERCENT SIGN,eAMPERSAND,fPOSTROPHE,eLEFT PARENTHESIS",
    "eRIGHT PARENTHESIS,eASTERISK,ePLUS SIGN,eCOMMA,eHYPHEN-MINUS,eFULL STOP,eSOLIDUS,eDIGIT ZERO",
    "kONE,kTWO,lHREE,kFOUR,lIVE,kSIX,lEVEN,kEIGHT,kNINE,eCOLON,eSEMICOLON,eLESS-THAN SIGN",
    "eEQUALS SIGN,eGREATER-THAN SIGN,eQUESTION MARK,eCOMMERCIAL AT,eLATIN CAPITAL LETTER A,zB,zC,zD",
    "zE,zF,zG,zH,zI,zJ,zK,zL,zM,zN,zO,zP,zQ,zR,zS,zT,zU,zV,zW,zX,zY,zZ,fEFT SQUARE BRACKET",
    "eREVERSE SOLIDUS,fIGHT SQUARE BRACKET,eCIRCUMFLEX ACCENT,eLOW LINE,eGRAVE ACCENT",
    "eLATIN SMALL LETTER A,xB,xC,xD,xE,xF,xG,xH,xI,xJ,xK,xL,xM,xN,xO,xP,xQ,xR,xS,xT,xU,xV,xW,xX,xY",
    "xZ,fEFT CURLY BRACKET,eVERTICAL LINE,eRIGHT CURLY BRACKET,eTILDE,aCANCEL TAG"]

end Reconcile.Text.CharName
