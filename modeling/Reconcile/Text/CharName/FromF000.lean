/-!
# Names of characters from U+F000 to U+FFFF

The lines are read by `Reconcile.Text.CharName`.
-/

namespace Reconcile.Text.CharName

/-- The names of the characters from U+F000 to U+FFFF. -/
def namesFromF000 : List String :=
  [
    "=FB00aLATIN SMALL LIGATURE FF,wI,wL,wFI,xL,vLONG S T,vST,=FB13aARMENIAN SMALL LIGATURE MEN NOW",
    "zdECH,zdINI,yVEW NOW,yMEN XEH,=FB1DaHEBREW LETTER YOD WITH HIRIQ,hPOINT JUDEO-SPANISH VARIKA",
    "hLIGATURE YIDDISH YOD YOD PATAH,iETTER ALTERNATIVE AYIN,oWIDE ALEF,tDALET,tHE,tKAF,tLAMED",
    "tFINAL MEM,tRESH,tTAV,oALTERNATIVE PLUS SIGN,oSHIN WITH SHIN DOT,zIN DOT,yDAGESH AND SHIN DOT",
    "zlIN DOT,oALEF WITH PATAH,yQAMATS,yMAPIQ,oBET WITH DAGESH,oGIMEL WITH DAGESH",
    "oDALET WITH DAGESH,oHE WITH MAPIQ,oVAV WITH DAGESH,oZAYIN WITH DAGESH,=FB38oTET WITH DAGESH",
    "oYOD WITH DAGESH,oFINAL KAF WITH DAGESH,oKAF WITH DAGESH,oLAMED WITH DAGESH",
    "=FB3EoMEM WITH DAGESH,=FB40oNUN WITH DAGESH,oSAMEKH WITH DAGESH,=FB43oFINAL PE WITH DAGESH",
    "oPE WITH DAGESH,=FB46oTSADI WITH DAGESH,oQOF WITH DAGESH,oRESH WITH DAGESH,oSHIN WITH DAGESH",
    "oTAV WITH DAGESH,oVAV WITH HOLAM,oBET WITH RAFE,oKAF WITH RAFE,oPE WITH RAFE",
    "iIGATURE ALEF LAMED,aARABIC LETTER ALEF WASLA ISOLATED FORM,zFINAL FORM,oBEEH ISOLATED FORM",
    "tFINAL FORM,tINITIAL FORM,tMEDIAL FORM,oPEH ISOLATED FORM,sFINAL FORM,sINITIAL FORM",
    "sMEDIAL FORM,oBEHEH ISOLATED FORM,uFINAL FORM,uINITIAL FORM,uMEDIAL FORM,oTTEHEH ISOLATED FORM",
    "vFINAL FORM,vINITIAL FORM,vMEDIAL FORM,pEHEH ISOLATED FORM,uFINAL FORM,uINITIAL FORM",
    "uMEDIAL FORM,pTEH ISOLATED FORM,tFINAL FORM,tINITIAL FORM,tMEDIAL FORM,oVEH ISOLATED FORM",
    "sFINAL FORM,sINITIAL FORM,sMEDIAL FORM,oPEHEH ISOLATED FORM,uFINAL FORM,uINITIAL FORM",
    "uMEDIAL FORM,oDYEH ISOLATED FORM,tFINAL FORM,tINITIAL FORM,tMEDIAL FORM,oNYEH ISOLATED FORM",
    "tFINAL FORM,tINITIAL FORM,tMEDIAL FORM,oTCHEH ISOLATED FORM,uFINAL FORM,uINITIAL FORM",
    "uMEDIAL FORM,tEH ISOLATED FORM,wFINAL FORM,wINITIAL FORM,wMEDIAL FORM,oDDAHAL ISOLATED FORM",
    "vFINAL FORM,pAHAL ISOLATED FORM,uFINAL FORM,pUL ISOLATED FORM,sFINAL FORM,pDAL ISOLATED FORM",
    "tFINAL FORM,oJEH ISOLATED FORM,sFINAL FORM,oRREH ISOLATED FORM,tFINAL FORM",
    "oKEHEH ISOLATED FORM,uFINAL FORM,uINITIAL FORM,uMEDIAL FORM,oGAF ISOLATED FORM,sFINAL FORM",
    "sINITIAL FORM,sMEDIAL FORM,pUEH ISOLATED FORM,tFINAL FORM,tINITIAL FORM,tMEDIAL FORM",
    "oNGOEH ISOLATED FORM,uFINAL FORM,uINITIAL FORM,uMEDIAL FORM,pOON GHUNNA ISOLATED FORM",
    "zbFINAL FORM,oRNOON ISOLATED FORM,uFINAL FORM,uINITIAL FORM,uMEDIAL FORM",
    "oHEH WITH YEH ABOVE ISOLATED FORM,ziFINAL FORM,sGOAL ISOLATED FORM,xFINAL FORM,xINITIAL FORM",
    "xMEDIAL FORM,sDOACHASHMEE ISOLATED FORM,zfFINAL FORM,zfINITIAL FORM,zfMEDIAL FORM",
    "oYEH BARREE ISOLATED FORM,zFINAL FORM,zWITH HAMZA ABOVE ISOLATED FORM,zrFINAL FORM",
    "hSYMBOL DOT ABOVE,sBELOW,oTWO DOTS ABOVE,xBELOW,pHREE DOTS ABOVE,zBELOW",
    "zPOINTING DOWNWARDS ABOVE,ztBELOW,oFOUR DOTS ABOVE,yBELOW,oDOUBLE VERTICAL BAR BELOW",
    "oTWO DOTS VERTICALLY ABOVE,zjBELOW,oRING,oSMALL TAH ABOVE,yBELOW,oWASLA ABOVE",
    "=FBD3hLETTER NG ISOLATED FORM,rFINAL FORM,rINITIAL FORM,rMEDIAL FORM,oU ISOLATED FORM",
    "qFINAL FORM,oOE ISOLATED FORM,rFINAL FORM,oYU ISOLATED FORM,rFINAL FORM",
    "oU WITH HAMZA ABOVE ISOLATED FORM,oVE ISOLATED FORM,rFINAL FORM,oKIRGHIZ OE ISOLATED FORM",
    "zFINAL FORM,wYU ISOLATED FORM,zFINAL FORM,oE ISOLATED FORM,qFINAL FORM,qINITIAL FORM",
    "qMEDIAL FORM,oUIGHUR KAZAKH KIRGHIZ ALEF MAKSURA INITIAL FORM,zyMEDIAL FORM",
    "iIGATURE YEH WITH HAMZA ABOVE WITH ALEF ISOLATED FORM,zwFINAL FORM,zsE ISOLATED FORM",
    "zuFINAL FORM,zrWAW ISOLATED FORM,zvFINAL FORM,zrU ISOLATED FORM,ztFINAL FORM",
    "zrOE ISOLATED FORM,zuFINAL FORM,zrYU ISOLATED FORM,zuFINAL FORM,zrE ISOLATED FORM,ztFINAL FORM",
    "ztINITIAL FORM,qUIGHUR KIRGHIZ YEH WITH HAMZA ABOVE WITH ALEF MAKSURA ISOLATED FORM",
    "zzuFINAL FORM,zzuINITIAL FORM,iETTER FARSI YEH ISOLATED FORM,yFINAL FORM,yINITIAL FORM",
    "yMEDIAL FORM,iIGATURE YEH WITH HAMZA ABOVE WITH JEEM ISOLATED FORM,zrHAH ISOLATED FORM",
    "zrMEEM ISOLATED FORM,zrALEF MAKSURA ISOLATED FORM,zrYEH ISOLATED FORM",
    "qBEH WITH JEEM ISOLATED FORM,zHAH ISOLATED FORM,zKHAH ISOLATED FORM,zMEEM ISOLATED FORM",
    "zALEF MAKSURA ISOLATED FORM,zYEH ISOLATED FORM,qTEH WITH JEEM ISOLATED FORM,zHAH ISOLATED FORM",
    "zKHAH ISOLATED FORM,zMEEM ISOLATED FORM,zALEF MAKSURA ISOLATED FORM,zYEH ISOLATED FORM",
    "rHEH WITH JEEM ISOLATED FORM,zbMEEM ISOLATED FORM,zbALEF MAKSURA ISOLATED FORM",
    "zbYEH ISOLATED FORM,qJEEM WITH HAH ISOLATED FORM,zbMEEM ISOLATED FORM",
    "qHAH WITH JEEM ISOLATED FORM,zMEEM ISOLATED FORM,qKHAH WITH JEEM ISOLATED FORM",
    "zbHAH ISOLATED FORM,zbMEEM ISOLATED FORM,qSEEN WITH JEEM ISOLATED FORM,zbHAH ISOLATED FORM",
    "zbKHAH ISOLATED FORM,zbMEEM ISOLATED FORM,rAD WITH HAH ISOLATED FORM,zMEEM ISOLATED FORM",
    "qDAD WITH JEEM ISOLATED FORM,zHAH ISOLATED FORM,zKHAH ISOLATED FORM,zMEEM ISOLATED FORM",
    "qTAH WITH HAH ISOLATED FORM,zMEEM ISOLATED FORM,qZAH WITH MEEM ISOLATED FORM",
    "qAIN WITH JEEM ISOLATED FORM,zMEEM ISOLATED FORM,qGHAIN WITH JEEM ISOLATED FORM",
    "zcMEEM ISOLATED FORM,qFEH WITH JEEM ISOLATED FORM,zHAH ISOLATED FORM,zKHAH ISOLATED FORM",
    "zMEEM ISOLATED FORM,zALEF MAKSURA ISOLATED FORM,zYEH ISOLATED FORM,qQAF WITH HAH ISOLATED FORM",
    "zMEEM ISOLATED FORM,zALEF MAKSURA ISOLATED FORM,zYEH ISOLATED FORM",
    "qKAF WITH ALEF ISOLATED FORM,zJEEM ISOLATED FORM,zHAH ISOLATED FORM,zKHAH ISOLATED FORM",
    "zLAM ISOLATED FORM,zMEEM ISOLATED FORM,zALEF MAKSURA ISOLATED FORM,zYEH ISOLATED FORM",
    "qLAM WITH JEEM ISOLATED FORM,zHAH ISOLATED FORM,zKHAH ISOLATED FORM,zMEEM ISOLATED FORM",
    "zALEF MAKSURA ISOLATED FORM,zYEH ISOLATED FORM,qMEEM WITH JEEM ISOLATED FORM",
    "zbHAH ISOLATED FORM,zbKHAH ISOLATED FORM,zbMEEM ISOLATED FORM,zbALEF MAKSURA ISOLATED FORM",
    "zbYEH ISOLATED FORM,qNOON WITH JEEM ISOLATED FORM,zbHAH ISOLATED FORM,zbKHAH ISOLATED FORM",
    "zbMEEM ISOLATED FORM,zbALEF MAKSURA ISOLATED FORM,zbYEH ISOLATED FORM",
    "qHEH WITH JEEM ISOLATED FORM,zMEEM ISOLATED FORM,zALEF MAKSURA ISOLATED FORM",
    "zYEH ISOLATED FORM,qYEH WITH JEEM ISOLATED FORM,zHAH ISOLATED FORM,zKHAH ISOLATED FORM",
    "zMEEM ISOLATED FORM,zALEF MAKSURA ISOLATED FORM,zYEH ISOLATED FORM",
    "qTHAL WITH SUPERSCRIPT ALEF ISOLATED FORM,qREH WITH SUPERSCRIPT ALEF ISOLATED FORM",
    "qALEF MAKSURA WITH SUPERSCRIPT ALEF ISOLATED FORM,qSHADDA WITH DAMMATAN ISOLATED FORM",
    "zdKASRATAN ISOLATED FORM,zdFATHA ISOLATED FORM,zdDAMMA ISOLATED FORM,zdKASRA ISOLATED FORM",
    "zdSUPERSCRIPT ALEF ISOLATED FORM,qYEH WITH HAMZA ABOVE WITH REH FINAL FORM,zrZAIN FINAL FORM",
    "zrMEEM FINAL FORM,zrNOON FINAL FORM,zrALEF MAKSURA FINAL FORM,zrYEH FINAL FORM",
    "qBEH WITH REH FINAL FORM,zZAIN FINAL FORM,zMEEM FINAL FORM,zNOON FINAL FORM",
    "zALEF MAKSURA FINAL FORM,zYEH FINAL FORM,qTEH WITH REH FINAL FORM,zZAIN FINAL FORM",
    "zMEEM FINAL FORM,zNOON FINAL FORM,zALEF MAKSURA FINAL FORM,zYEH FINAL FORM",
    "rHEH WITH REH FINAL FORM,zbZAIN FINAL FORM,zbMEEM FINAL FORM,zbNOON FINAL FORM",
    "zbALEF MAKSURA FINAL FORM,zbYEH FINAL FORM,qFEH WITH ALEF MAKSURA FINAL FORM,zYEH FINAL FORM",
    "qQAF WITH ALEF MAKSURA FINAL FORM,zYEH FINAL FORM,qKAF WITH ALEF FINAL FORM,zLAM FINAL FORM",
    "zMEEM FINAL FORM,zALEF MAKSURA FINAL FORM,zYEH FINAL FORM,qLAM WITH MEEM FINAL FORM",
    "zALEF MAKSURA FINAL FORM,zYEH FINAL FORM,qMEEM WITH ALEF FINAL FORM,zbMEEM FINAL FORM",
    "qNOON WITH REH FINAL FORM,zbZAIN FINAL FORM,zbMEEM FINAL FORM,zbNOON FINAL FORM",
    "zbALEF MAKSURA FINAL FORM,zbYEH FINAL FORM,qALEF MAKSURA WITH SUPERSCRIPT ALEF FINAL FORM",
    "qYEH WITH REH FINAL FORM,zZAIN FINAL FORM,zMEEM FINAL FORM,zNOON FINAL FORM",
    "zALEF MAKSURA FINAL FORM,zYEH FINAL FORM,zHAMZA ABOVE WITH JEEM INITIAL FORM",
    "zrHAH INITIAL FORM,zrKHAH INITIAL FORM,zrMEEM INITIAL FORM,zrHEH INITIAL FORM",
    "qBEH WITH JEEM INITIAL FORM,zHAH INITIAL FORM,zKHAH INITIAL FORM,zMEEM INITIAL FORM",
    "zHEH INITIAL FORM,qTEH WITH JEEM INITIAL FORM,zHAH INITIAL FORM,zKHAH INITIAL FORM",
    "zMEEM INITIAL FORM,zHEH INITIAL FORM,rHEH WITH MEEM INITIAL FORM,qJEEM WITH HAH INITIAL FORM",
    "zbMEEM INITIAL FORM,qHAH WITH JEEM INITIAL FORM,zMEEM INITIAL FORM",
    "qKHAH WITH JEEM INITIAL FORM,zbMEEM INITIAL FORM,qSEEN WITH JEEM INITIAL FORM",
    "zbHAH INITIAL FORM,zbKHAH INITIAL FORM,zbMEEM INITIAL FORM,rAD WITH HAH INITIAL FORM",
    "zKHAH INITIAL FORM,zMEEM INITIAL FORM,qDAD WITH JEEM INITIAL FORM,zHAH INITIAL FORM",
    "zKHAH INITIAL FORM,zMEEM INITIAL FORM,qTAH WITH HAH INITIAL FORM,qZAH WITH MEEM INITIAL FORM",
    "qAIN WITH JEEM INITIAL FORM,zMEEM INITIAL FORM,qGHAIN WITH JEEM INITIAL FORM",
    "zcMEEM INITIAL FORM,qFEH WITH JEEM INITIAL FORM,zHAH INITIAL FORM,zKHAH INITIAL FORM",
    "zMEEM INITIAL FORM,qQAF WITH HAH INITIAL FORM,zMEEM INITIAL FORM,qKAF WITH JEEM INITIAL FORM",
    "zHAH INITIAL FORM,zKHAH INITIAL FORM,zLAM INITIAL FORM,zMEEM INITIAL FORM",
    "qLAM WITH JEEM INITIAL FORM,zHAH INITIAL FORM,zKHAH INITIAL FORM,zMEEM INITIAL FORM",
    "zHEH INITIAL FORM,qMEEM WITH JEEM INITIAL FORM,zbHAH INITIAL FORM,zbKHAH INITIAL FORM",
    "zbMEEM INITIAL FORM,qNOON WITH JEEM INITIAL FORM,zbHAH INITIAL FORM,zbKHAH INITIAL FORM",
    "zbMEEM INITIAL FORM,zbHEH INITIAL FORM,qHEH WITH JEEM INITIAL FORM,zMEEM INITIAL FORM",
    "zSUPERSCRIPT ALEF INITIAL FORM,qYEH WITH JEEM INITIAL FORM,zHAH INITIAL FORM",
    "zKHAH INITIAL FORM,zMEEM INITIAL FORM,zHEH INITIAL FORM,zbAMZA ABOVE WITH MEEM MEDIAL FORM",
    "zrHEH MEDIAL FORM,qBEH WITH MEEM MEDIAL FORM,zHEH MEDIAL FORM,qTEH WITH MEEM MEDIAL FORM",
    "zHEH MEDIAL FORM,rHEH WITH MEEM MEDIAL FORM,zbHEH MEDIAL FORM,qSEEN WITH MEEM MEDIAL FORM",
    "zbHEH MEDIAL FORM,rHEEN WITH MEEM MEDIAL FORM,zcHEH MEDIAL FORM,qKAF WITH LAM MEDIAL FORM",
    "zMEEM MEDIAL FORM,qLAM WITH MEEM MEDIAL FORM,qNOON WITH MEEM MEDIAL FORM,zbHEH MEDIAL FORM",
    "qYEH WITH MEEM MEDIAL FORM,zHEH MEDIAL FORM,qSHADDA WITH FATHA MEDIAL FORM,zdDAMMA MEDIAL FORM",
    "zdKASRA MEDIAL FORM,qTAH WITH ALEF MAKSURA ISOLATED FORM,zYEH ISOLATED FORM",
    "qAIN WITH ALEF MAKSURA ISOLATED FORM,zYEH ISOLATED FORM,qGHAIN WITH ALEF MAKSURA ISOLATED FORM",
    "zcYEH ISOLATED FORM,qSEEN WITH ALEF MAKSURA ISOLATED FORM,zbYEH ISOLATED FORM",
    "rHEEN WITH ALEF MAKSURA ISOLATED FORM,zcYEH ISOLATED FORM,qHAH WITH ALEF MAKSURA ISOLATED FORM",
    "zYEH ISOLATED FORM,qJEEM WITH ALEF MAKSURA ISOLATED FORM,zbYEH ISOLATED FORM",
    "qKHAH WITH ALEF MAKSURA ISOLATED FORM,zbYEH ISOLATED FORM,qSAD WITH ALEF MAKSURA ISOLATED FORM",
    "zYEH ISOLATED FORM,qDAD WITH ALEF MAKSURA ISOLATED FORM,zYEH ISOLATED FORM",
    "qSHEEN WITH JEEM ISOLATED FORM,zcHAH ISOLATED FORM,zcKHAH ISOLATED FORM,zcMEEM ISOLATED FORM",
    "zcREH ISOLATED FORM,rEEN WITH REH ISOLATED FORM,rAD WITH REH ISOLATED FORM",
    "qDAD WITH REH ISOLATED FORM,qTAH WITH ALEF MAKSURA FINAL FORM,zYEH FINAL FORM",
    "qAIN WITH ALEF MAKSURA FINAL FORM,zYEH FINAL FORM,qGHAIN WITH ALEF MAKSURA FINAL FORM",
    "zcYEH FINAL FORM,qSEEN WITH ALEF MAKSURA FINAL FORM,zbYEH FINAL FORM",
    "rHEEN WITH ALEF MAKSURA FINAL FORM,zcYEH FINAL FORM,qHAH WITH ALEF MAKSURA FINAL FORM",
    "zYEH FINAL FORM,qJEEM WITH ALEF MAKSURA FINAL FORM,zbYEH FINAL FORM",
    "qKHAH WITH ALEF MAKSURA FINAL FORM,zbYEH FINAL FORM,qSAD WITH ALEF MAKSURA FINAL FORM",
    "zYEH FINAL FORM,qDAD WITH ALEF MAKSURA FINAL FORM,zYEH FINAL FORM,qSHEEN WITH JEEM FINAL FORM",
    "zcHAH FINAL FORM,zcKHAH FINAL FORM,zcMEEM FINAL FORM,zcREH FINAL FORM,rEEN WITH REH FINAL FORM",
    "rAD WITH REH FINAL FORM,qDAD WITH REH FINAL FORM,qSHEEN WITH JEEM INITIAL FORM",
    "zcHAH INITIAL FORM,zcKHAH INITIAL FORM,zcMEEM INITIAL FORM,rEEN WITH HEH INITIAL FORM",
    "rHEEN WITH HEH INITIAL FORM,qTAH WITH MEEM INITIAL FORM,qSEEN WITH JEEM MEDIAL FORM",
    "zbHAH MEDIAL FORM,zbKHAH MEDIAL FORM,rHEEN WITH JEEM MEDIAL FORM,zcHAH MEDIAL FORM",
    "zcKHAH MEDIAL FORM,qTAH WITH MEEM MEDIAL FORM,qZAH WITH MEEM MEDIAL FORM",
    "qALEF WITH FATHATAN FINAL FORM,zkISOLATED FORM,aORNATE LEFT PARENTHESIS,hRIGHT PARENTHESIS",
    "aARABIC LIGATURE RAHIMAHU ALLAAH,sDI ALLAAHU ANH,zhAA,zhUM,zjAA,ziNNA",
    "qSALLALLAAHU ALAYHI WA-AALIH,qALAYHI AS-SALAAM,wM AS-SALAAM,xAA AS-SALAAM",
    "w AS-SALAATU WAS-SALAAM,qQUDDISA SIRRAH,qSALLALLAHU ALAYHI WAAALIHEE WA-SALLAM",
    "qALAYHAA AS-SALAAM,qTABAARAKA WA-TAAALAA,qRAHIMAHUM ALLAAH",
    "qTEH WITH JEEM WITH MEEM INITIAL FORM,zHAH WITH JEEM FINAL FORM,zoINITIAL FORM",
    "zjMEEM INITIAL FORM,zKHAH WITH MEEM INITIAL FORM,zMEEM WITH JEEM INITIAL FORM",
    "zkHAH INITIAL FORM,zkKHAH INITIAL FORM,qJEEM WITH MEEM WITH HAH FINAL FORM,zpINITIAL FORM",
    "qHAH WITH MEEM WITH YEH FINAL FORM,zkALEF MAKSURA FINAL FORM",
    "qSEEN WITH HAH WITH JEEM INITIAL FORM,zbJEEM WITH HAH INITIAL FORM,zlALEF MAKSURA FINAL FORM",
    "zbMEEM WITH HAH FINAL FORM,zpINITIAL FORM,zlJEEM INITIAL FORM,zlMEEM FINAL FORM,zqINITIAL FORM",
    "rAD WITH HAH WITH HAH FINAL FORM,znINITIAL FORM,zMEEM WITH MEEM FINAL FORM",
    "rHEEN WITH HAH WITH MEEM FINAL FORM,zqINITIAL FORM,zcJEEM WITH YEH FINAL FORM",
    "zcMEEM WITH KHAH FINAL FORM,zrINITIAL FORM,zmMEEM FINAL FORM,zrINITIAL FORM",
    "qDAD WITH HAH WITH ALEF MAKSURA FINAL FORM,zKHAH WITH MEEM FINAL FORM,zpINITIAL FORM",
    "qTAH WITH MEEM WITH HAH FINAL FORM,zoINITIAL FORM,zkMEEM INITIAL FORM,zkYEH FINAL FORM",
    "qAIN WITH JEEM WITH MEEM FINAL FORM,zMEEM WITH MEEM FINAL FORM,zpINITIAL FORM",
    "zkALEF MAKSURA FINAL FORM,qGHAIN WITH MEEM WITH MEEM FINAL FORM,zmYEH FINAL FORM",
    "zmALEF MAKSURA FINAL FORM,qFEH WITH KHAH WITH MEEM FINAL FORM,zpINITIAL FORM",
    "qQAF WITH MEEM WITH HAH FINAL FORM,zkMEEM FINAL FORM,qLAM WITH HAH WITH MEEM FINAL FORM",
    "zjYEH FINAL FORM,zjALEF MAKSURA FINAL FORM,zJEEM WITH JEEM INITIAL FORM,zpFINAL FORM",
    "zKHAH WITH MEEM FINAL FORM,zpINITIAL FORM,zMEEM WITH HAH FINAL FORM,zoINITIAL FORM",
    "qMEEM WITH HAH WITH JEEM INITIAL FORM,zkMEEM INITIAL FORM,zkYEH FINAL FORM",
    "zbJEEM WITH HAH INITIAL FORM,zlMEEM INITIAL FORM,zbKHAH WITH JEEM INITIAL FORM",
    "zlMEEM INITIAL FORM,=FD92zbJEEM WITH KHAH INITIAL FORM,qHEH WITH MEEM WITH JEEM INITIAL FORM",
    "zkMEEM INITIAL FORM,qNOON WITH HAH WITH MEEM INITIAL FORM,zkALEF MAKSURA FINAL FORM",
    "zbJEEM WITH MEEM FINAL FORM,zqINITIAL FORM,zlALEF MAKSURA FINAL FORM",
    "zbMEEM WITH YEH FINAL FORM,zlALEF MAKSURA FINAL FORM,qYEH WITH MEEM WITH MEEM FINAL FORM",
    "zpINITIAL FORM,qBEH WITH KHAH WITH YEH FINAL FORM,qTEH WITH JEEM WITH YEH FINAL FORM",
    "zkALEF MAKSURA FINAL FORM,zKHAH WITH YEH FINAL FORM,zkALEF MAKSURA FINAL FORM",
    "zMEEM WITH YEH FINAL FORM,zkALEF MAKSURA FINAL FORM,qJEEM WITH MEEM WITH YEH FINAL FORM",
    "zbHAH WITH ALEF MAKSURA FINAL FORM,zbMEEM WITH ALEF MAKSURA FINAL FORM",
    "qSEEN WITH KHAH WITH ALEF MAKSURA FINAL FORM,rAD WITH HAH WITH YEH FINAL FORM",
    "rHEEN WITH HAH WITH YEH FINAL FORM,qDAD WITH HAH WITH YEH FINAL FORM",
    "qLAM WITH JEEM WITH YEH FINAL FORM,zMEEM WITH YEH FINAL FORM,qYEH WITH HAH WITH YEH FINAL FORM",
    "zJEEM WITH YEH FINAL FORM,zMEEM WITH YEH FINAL FORM,qMEEM WITH MEEM WITH YEH FINAL FORM",
    "qQAF WITH MEEM WITH YEH FINAL FORM,qNOON WITH HAH WITH YEH FINAL FORM",
    "qQAF WITH MEEM WITH HAH INITIAL FORM,qLAM WITH HAH WITH MEEM INITIAL FORM",
    "qAIN WITH MEEM WITH YEH FINAL FORM,qKAF WITH MEEM WITH YEH FINAL FORM",
    "qNOON WITH JEEM WITH HAH INITIAL FORM,qMEEM WITH KHAH WITH YEH FINAL FORM",
    "qLAM WITH JEEM WITH MEEM INITIAL FORM,qKAF WITH MEEM WITH MEEM FINAL FORM",
    "qLAM WITH JEEM WITH MEEM FINAL FORM,qNOON WITH JEEM WITH HAH FINAL FORM",
    "qJEEM WITH HAH WITH YEH FINAL FORM,qHAH WITH JEEM WITH YEH FINAL FORM",
    "qMEEM WITH JEEM WITH YEH FINAL FORM,qFEH WITH MEEM WITH YEH FINAL FORM",
    "qBEH WITH HAH WITH YEH FINAL FORM,qKAF WITH MEEM WITH MEEM INITIAL FORM",
    "qAIN WITH JEEM WITH MEEM INITIAL FORM,qSAD WITH MEEM WITH MEEM INITIAL FORM",
    "rEEN WITH KHAH WITH YEH FINAL FORM,qNOON WITH JEEM WITH YEH FINAL FORM,=FDCFqSALAAMUHU ALAYNAA",
    "=FDF0tLA USED AS KORANIC STOP SIGN ISOLATED FORM,qQALA USED AS KORANIC STOP SIGN ISOLATED FORM",
    "qALLAH ISOLATED FORM,rKBAR ISOLATED FORM,qMOHAMMAD ISOLATED FORM,qSALAM ISOLATED FORM",
    "qRASOUL ISOLATED FORM,qALAYHE ISOLATED FORM,qWASALLAM ISOLATED FORM,qSALLA ISOLATED FORM",
    "vLLAHOU ALAYHE WASALLAM,qJALLAJALALOUHOU,aRIAL SIGN",
    "aARABIC LIGATURE BISMILLAH AR-RAHMAN AR-RAHEEM,qSUBHAANAHU WA TAAALAA,qAZZA WA JALL",
    "=FE10aPRESENTATION FORM FOR VERTICAL COMMA,zgIDEOGRAPHIC COMMA,zsFULL STOP,zgCOLON,zgSEMICOLON",
    "zgEXCLAMATION MARK,zgQUESTION MARK,zgLEFT WHITE LENTICULAR BRACKET",
    "zgRIGHT WHITE LENTICULAR BRAKCET,zgHORIZONTAL ELLIPSIS,=FE20aCOMBINING LIGATURE LEFT HALF",
    "tRIGHT HALF,kDOUBLE TILDE LEFT HALF,xRIGHT HALF,kMACRON LEFT HALF,rRIGHT HALF",
    "kCONJOINING MACRON,kLIGATURE LEFT HALF BELOW,tRIGHT HALF BELOW,kTILDE LEFT HALF BELOW",
    "qRIGHT HALF BELOW,kMACRON LEFT HALF BELOW,rRIGHT HALF BELOW,kCONJOINING MACRON BELOW",
    "lYRILLIC TITLO LEFT HALF,zRIGHT HALF,aPRESENTATION FORM FOR VERTICAL TWO DOT LEADER,zgEM DASH",
    "zhN DASH,zgLOW LINE,zgWAVY LOW LINE,zgLEFT PARENTHESIS,zgRIGHT PARENTHESIS",
    "zgLEFT CURLY BRACKET,zgRIGHT CURLY BRACKET,zgLEFT TORTOISE SHELL BRACKET",
    "zgRIGHT TORTOISE SHELL BRACKET,zgLEFT BLACK LENTICULAR BRACKET",
    "zgRIGHT BLACK LENTICULAR BRACKET,zgLEFT DOUBLE ANGLE BRACKET,zgRIGHT DOUBLE ANGLE BRACKET",
    "zgLEFT ANGLE BRACKET,zgRIGHT ANGLE BRACKET,zgLEFT CORNER BRACKET,zgRIGHT CORNER BRACKET",
    "zgLEFT WHITE CORNER BRACKET,zgRIGHT WHITE CORNER BRACKET,aSESAME DOT,aWHITE SESAME DOT",
    "aPRESENTATION FORM FOR VERTICAL LEFT SQUARE BRACKET,zgRIGHT SQUARE BRACKET,aDASHED OVERLINE",
    "aCENTRELINE OVERLINE,aWAVY OVERLINE,aDOUBLE WAVY OVERLINE,bASHED LOW LINE,aCENTRELINE LOW LINE",
    "aWAVY LOW LINE,aSMALL COMMA,gIDEOGRAPHIC COMMA,gFULL STOP,=FE54gSEMICOLON,gCOLON",
    "gQUESTION MARK,gEXCLAMATION MARK,hM DASH,gLEFT PARENTHESIS,gRIGHT PARENTHESIS",
    "gLEFT CURLY BRACKET,gRIGHT CURLY BRACKET,gLEFT TORTOISE SHELL BRACKET",
    "gRIGHT TORTOISE SHELL BRACKET,gNUMBER SIGN,gAMPERSAND,hSTERISK,gPLUS SIGN,gHYPHEN-MINUS",
    "gLESS-THAN SIGN,gGREATER-THAN SIGN,gEQUALS SIGN,=FE68gREVERSE SOLIDUS,gDOLLAR SIGN",
    "gPERCENT SIGN,gCOMMERCIAL AT,=FE70aARABIC FATHATAN ISOLATED FORM,hTATWEEL WITH FATHATAN ABOVE",
    "hDAMMATAN ISOLATED FORM,hTAIL FRAGMENT,hKASRATAN ISOLATED FORM,=FE76hFATHA ISOLATED FORM",
    "nMEDIAL FORM,hDAMMA ISOLATED FORM,nMEDIAL FORM,hKASRA ISOLATED FORM,nMEDIAL FORM",
    "hSHADDA ISOLATED FORM,oMEDIAL FORM,iUKUN ISOLATED FORM,nMEDIAL FORM",
    "hLETTER HAMZA ISOLATED FORM,oALEF WITH MADDA ABOVE ISOLATED FORM,zlFINAL FORM",
    "yHAMZA ABOVE ISOLATED FORM,zlFINAL FORM,oWAW WITH HAMZA ABOVE ISOLATED FORM,zkFINAL FORM",
    "oALEF WITH HAMZA BELOW ISOLATED FORM,zlFINAL FORM,oYEH WITH HAMZA ABOVE ISOLATED FORM",
    "zkFINAL FORM,zkINITIAL FORM,zkMEDIAL FORM,oALEF ISOLATED FORM,tFINAL FORM,oBEH ISOLATED FORM",
    "sFINAL FORM,sINITIAL FORM,sMEDIAL FORM,oTEH MARBUTA ISOLATED FORM,zbFINAL FORM,sISOLATED FORM",
    "sFINAL FORM,sINITIAL FORM,sMEDIAL FORM,pHEH ISOLATED FORM,tFINAL FORM,tINITIAL FORM",
    "tMEDIAL FORM,oJEEM ISOLATED FORM,tFINAL FORM,tINITIAL FORM,tMEDIAL FORM,oHAH ISOLATED FORM",
    "sFINAL FORM,sINITIAL FORM,sMEDIAL FORM,oKHAH ISOLATED FORM,tFINAL FORM,tINITIAL FORM",
    "tMEDIAL FORM,oDAL ISOLATED FORM,sFINAL FORM,oTHAL ISOLATED FORM,tFINAL FORM,oREH ISOLATED FORM",
    "sFINAL FORM,oZAIN ISOLATED FORM,tFINAL FORM,oSEEN ISOLATED FORM,tFINAL FORM,tINITIAL FORM",
    "tMEDIAL FORM,pHEEN ISOLATED FORM,uFINAL FORM,uINITIAL FORM,uMEDIAL FORM,pAD ISOLATED FORM",
    "sFINAL FORM,sINITIAL FORM,sMEDIAL FORM,oDAD ISOLATED FORM,sFINAL FORM,sINITIAL FORM",
    "sMEDIAL FORM,oTAH ISOLATED FORM,sFINAL FORM,sINITIAL FORM,sMEDIAL FORM,oZAH ISOLATED FORM",
    "sFINAL FORM,sINITIAL FORM,sMEDIAL FORM,oAIN ISOLATED FORM,sFINAL FORM,sINITIAL FORM",
    "sMEDIAL FORM,oGHAIN ISOLATED FORM,uFINAL FORM,uINITIAL FORM,uMEDIAL FORM,oFEH ISOLATED FORM",
    "sFINAL FORM,sINITIAL FORM,sMEDIAL FORM,oQAF ISOLATED FORM,sFINAL FORM,sINITIAL FORM",
    "sMEDIAL FORM,oKAF ISOLATED FORM,sFINAL FORM,sINITIAL FORM,sMEDIAL FORM,oLAM ISOLATED FORM",
    "sFINAL FORM,sINITIAL FORM,sMEDIAL FORM,oMEEM ISOLATED FORM,tFINAL FORM,tINITIAL FORM",
    "tMEDIAL FORM,oNOON ISOLATED FORM,tFINAL FORM,tINITIAL FORM,tMEDIAL FORM,oHEH ISOLATED FORM",
    "sFINAL FORM,sINITIAL FORM,sMEDIAL FORM,oWAW ISOLATED FORM,sFINAL FORM",
    "oALEF MAKSURA ISOLATED FORM,zcFINAL FORM,oYEH ISOLATED FORM,sFINAL FORM,sINITIAL FORM",
    "sMEDIAL FORM,iIGATURE LAM WITH ALEF WITH MADDA ABOVE ISOLATED FORM,zwFINAL FORM",
    "zkHAMZA ABOVE ISOLATED FORM,zwFINAL FORM,zqBELOW ISOLATED FORM,zwFINAL FORM,zfISOLATED FORM",
    "zfFINAL FORM,=FEFFaZERO WIDTH NO-BREAK SPACE,=FF01aFULLWIDTH EXCLAMATION MARK,kQUOTATION MARK",
    "kNUMBER SIGN,kDOLLAR SIGN,kPERCENT SIGN,kAMPERSAND,lPOSTROPHE,kLEFT PARENTHESIS",
    "kRIGHT PARENTHESIS,kASTERISK,kPLUS SIGN,kCOMMA,kHYPHEN-MINUS,kFULL STOP,kSOLIDUS,kDIGIT ZERO",
    "qONE,qTWO,rHREE,qFOUR,rIVE,qSIX,rEVEN,qEIGHT,qNINE,kCOLON,kSEMICOLON,kLESS-THAN SIGN",
    "kEQUALS SIGN,kGREATER-THAN SIGN,kQUESTION MARK,kCOMMERCIAL AT,kLATIN CAPITAL LETTER A,zgB,zgC",
    "zgD,zgE,zgF,zgG,zgH,zgI,zgJ,zgK,zgL,zgM,zgN,zgO,zgP,zgQ,zgR,zgS,zgT,zgU,zgV,zgW,zgX,zgY,zgZ",
    "lEFT SQUARE BRACKET,kREVERSE SOLIDUS,lIGHT SQUARE BRACKET,kCIRCUMFLEX ACCENT,kLOW LINE",
    "kGRAVE ACCENT,kLATIN SMALL LETTER A,zeB,zeC,zeD,zeE,zeF,zeG,zeH,zeI,zeJ,zeK,zeL,zeM,zeN,zeO",
    "zeP,zeQ,zeR,zeS,zeT,zeU,zeV,zeW,zeX,zeY,zeZ,lEFT CURLY BRACKET,kVERTICAL LINE",
    "kRIGHT CURLY BRACKET,kTILDE,kLEFT WHITE PARENTHESIS,kRIGHT WHITE PARENTHESIS",
    "aHALFWIDTH IDEOGRAPHIC FULL STOP,kLEFT CORNER BRACKET,kRIGHT CORNER BRACKET,kIDEOGRAPHIC COMMA",
    "kKATAKANA MIDDLE DOT,tLETTER WO,zbSMALL A,zhI,zhU,zhE,zhO,zhYA,ziU,ziO,zhTU",
    "s-HIRAGANA PROLONGED SOUND MARK,s LETTER A,zbI,zbU,zbE,zbO,zbKA,zcI,zcU,zcE,zcO,zbSA,zcI,zcU",
    "zcE,zcO,zbTA,zcI,zcU,zcE,zcO,zbNA,zcI,zcU,zcE,zcO,zbHA,zcI,zcU,zcE,zcO,zbMA,zcI,zcU,zcE,zcO",
    "zbYA,zcU,zcO,zbRA,zcI,zcU,zcE,zcO,zbWA,zbN,tVOICED SOUND MARK,tSEMI-VOICED SOUND MARK",
    "kHANGUL FILLER,rLETTER KIYEOK,ySSANGKIYEOK,yKIYEOK-SIOS,yNIEUN,ze-CIEUC,zfHIEUH,yTIKEUT",
    "ySSANGTIKEUT,yRIEUL,ze-KIYEOK,zfMIEUM,zfPIEUP,zfSIOS,zfTHIEUTH,zfPHIEUPH,zfHIEUH,yMIEUM,yPIEUP",
    "ySSANGPIEUP,yPIEUP-SIOS,ySIOS,zSANGSIOS,yIEUNG,yCIEUC,ySSANGCIEUC,yCHIEUCH,yKHIEUKH,yTHIEUTH",
    "yPHIEUPH,yHIEUH,=FFC2yA,zE,yYA,zbE,yEO,yE,=FFCAyYEO,zE,yO,yWA,zbE,yOE,=FFD2yYO,yU,yWEO,zE,zI",
    "yYU,=FFDAyEU,yYI,yI,=FFE0aFULLWIDTH CENT SIGN,kPOUND SIGN,kNOT SIGN,kMACRON,kBROKEN BAR",
    "kYEN SIGN,kWON SIGN,=FFE8aHALFWIDTH FORMS LIGHT VERTICAL,kLEFTWARDS ARROW,kUPWARDS ARROW",
    "kRIGHTWARDS ARROW,kDOWNWARDS ARROW,kBLACK SQUARE,kWHITE CIRCLE",
    "=FFF9aINTERLINEAR ANNOTATION ANCHOR,xSEPARATOR,xTERMINATOR,aOBJECT REPLACEMENT CHARACTER",
    "aREPLACEMENT CHARACTER"]

end Reconcile.Text.CharName
