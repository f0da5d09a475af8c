/-!
# Further names of characters

Control characters have no name but these. The lines are read by `Reconcile.Text.CharName`.
-/

namespace Reconcile.Text.CharName

/-- Names that characters have besides their first one. -/
def aliases : List String :=
  [
    "=0aNULL,=0cL,aSTART OF HEADING,=1bOH,bTART OF TEXT,=2cX,aEND OF TEXT,=3bTX,bND OF TRANSMISSION",
    "=4bOT,bNQUIRY,=5cQ,aACKNOWLEDGE,=6cK,bLERT,=7aBEL,bACKSPACE,=8bS,aCHARACTER TABULATION",
    "=9aHORIZONTAL TABULATION,=9bT,=9aTAB,aLINE FEED,=AaNEW LINE,=AaEND OF LINE,=AbOL,=AaLF,=AaNL",
    "aLINE TABULATION,=BaVERTICAL TABULATION,=BbT,aFORM FEED,=CbF,aCARRIAGE RETURN,=DbR,aSHIFT OUT",
    "=EaLOCKING-SHIFT ONE,=EaSO,bHIFT IN,=FaLOCKING-SHIFT ZERO,=FaSI,aDATA LINK ESCAPE,=10bLE",
    "bEVICE CONTROL ONE,=11bC1,bEVICE CONTROL TWO,=12bC2,bEVICE CONTROL THREE,=13bC3",
    "bEVICE CONTROL FOUR,=14bC4,aNEGATIVE ACKNOWLEDGE,=15bAK,aSYNCHRONOUS IDLE,=16cN",
    "aEND OF TRANSMISSION BLOCK,=17bTB,aCANCEL,=18cN,aEND OF MEDIUM,=19bOM,aSUBSTITUTE,=1AcB",
    "aESCAPE,=1BcC,aINFORMATION SEPARATOR FOUR,=1CaFILE SEPARATOR,=1CbS",
    "aINFORMATION SEPARATOR THREE,=1DaGROUP SEPARATOR,=1DbS,aINFORMATION SEPARATOR TWO",
    "=1EaRECORD SEPARATOR,=1EbS,aINFORMATION SEPARATOR ONE,=1FaUNIT SEPARATOR,=1FbS,aSP,=7FaDELETE",
    "=7FcL,aPADDING CHARACTER,=80cD,aHIGH OCTET PRESET,=81bOP,aBREAK PERMITTED HERE,=82bPH",
    "aNO BREAK HERE,=83bBH,aINDEX,=84cD,aNEXT LINE,=85cL,aSTART OF SELECTED AREA,=86bSA",
    "aEND OF SELECTED AREA,=87bSA,aCHARACTER TABULATION SET,=88aHORIZONTAL TABULATION SET,=88bTS",
    "aCHARACTER TABULATION WITH JUSTIFICATION,=89aHORIZONTAL TABULATION WITH JUSTIFICATION,=89bTJ",
    "aLINE TABULATION SET,=8AaVERTICAL TABULATION SET,=8AbTS,aPARTIAL LINE FORWARD,=8BnDOWN,=8BbLD",
    "bARTIAL LINE BACKWARD,=8CnUP,=8CbLU,aREVERSE LINE FEED,=8DiINDEX,=8DbI,aSINGLE SHIFT TWO",
    "=8Eg-SHIFT-2,=8EbS2,bINGLE SHIFT THREE,=8Fg-SHIFT-3,=8FbS3,aDEVICE CONTROL STRING,=90bCS",
    "aPRIVATE USE ONE,=91l-1,=91bU1,bRIVATE USE TWO,=92l-2,=92bU2,aSET TRANSMIT STATE,=93bTS",
    "aCANCEL CHARACTER,=94bCH,aMESSAGE WAITING,=95bW,aSTART OF GUARDED AREA,=96jPROTECTED AREA",
    "=96bPA,aEND OF GUARDED AREA,=97hPROTECTED AREA,=97bPA,aSTART OF STRING,=98bOS",
    "bINGLE GRAPHIC CHARACTER INTRODUCER,=99bGC,bINGLE CHARACTER INTRODUCER,=9AbCI",
    "aCONTROL SEQUENCE INTRODUCER,=9BbSI,aSTRING TERMINATOR,=9CbT,aOPERATING SYSTEM COMMAND,=9DbSC",
    "aPRIVACY MESSAGE,=9EbM,aAPPLICATION PROGRAM COMMAND,=9FcC,aNBSP,=ADaSHY",
    "=1A2aLATIN CAPITAL LETTER GHA,gSMALL LETTER GHA,=34FaCGJ,=61CaALM",
    "=709aSYRIAC SUBLINEAR COLON SKEWED LEFT,=CDEaKANNADA LETTER LLLA,=E9DaLAO LETTER FO FON",
    "=E9FpAY,=EA3lRO,=EA5lLO,=FD0aTIBETAN MARK BKA- SHOG GI MGO RGYAN",
    "=11ECaHANGUL JONGSEONG YESIEUNG-KIYEOK,zbSSANGKIYEOK,rSSANGYESIEUNG,rYESIEUNG-KHIEUKH",
    "=180BaFVS1,d2,d3,aMVS,aFVS4,=200BaZWSP,cNJ,cJ,aLRM,aRLM,=202AaLRE,aRLE,aPDF,aLRO,aRLO,aNNBSP",
    "=205FaMMSP,aWJ,=2066aLRI,aRLI,aFSI,aPDI,=2118aWEIERSTRASS ELLIPTIC FUNCTION",
    "=2448aMICR ON US SYMBOL,fDASH SYMBOL",
    "=2B7AaLEFTWARDS TRIANGLE-HEADED ARROW WITH DOUBLE VERTICAL STROKE",
    "=2B7CaRIGHTWARDS TRIANGLE-HEADED ARROW WITH DOUBLE VERTICAL STROKE",
    "=A015aYI SYLLABLE ITERATION MARK,=AA6EaMYANMAR LETTER KHAMTI LLA",
    "=FE18aPRESENTATION FORM FOR VERTICAL RIGHT WHITE LENTICULAR BRACKET,=FEFFaBYTE ORDER MARK",
    "=FEFFbOM,=FEFFaZWNBSP,=122D4aCUNEIFORM SIGN NU11 TENU,uOVER NU11 BUR OVER BUR",
    "=16E56aMEDEFAIDRIN CAPITAL LETTER H,zcNG,=16E76mSMALL LETTER H,zNG",
    "=1B001aHENTAIGANA LETTER E-1,=1D0C5aBYZANTINE MUSICAL SYMBOL FTHORA SKLIRON CHROMA VASIS"]

end Reconcile.Text.CharName
