/-!
# Names of notations

Unicode 14, U+1D000 to U+1EFFF: musical and mathematical notation, sign writing, Ethiopic Extended-B,
Mende Kikakui, Adlam and Arabic mathematical letters.
-/

namespace RasterAlgebra.Text.CharacterName

/-- Entries of a table of names. -/
def notations : String := "
1D000:BYZANTINE MUSICAL SYMBOL PSILI,cDASEIA,cPERISPOMENI,cOXEIA EKFONITIKON,dDIPLI
cVAREIA EKFONITIKON,dDIPLI,cKATHISTI,cSYRMATIKI,cPARAKLITIKI,cYPOKRISIS,dDIPLI,cKREMASTI
cAPESO EKFONITIKON,cEXO EKFONITIKON,cTELEIA,cKENTIMATA,cAPOSTROFOS,dDIPLI,cSYNEVMA,cTHITA
cOLIGON ARCHAION,cGORGON ARCHAION,cPSILON,cCHAMILON,cVATHY,cISON ARCHAION,cKENTIMA ARCHAION
cKENTIMATA ARCHAION,cSAXIMATA,cPARICHON,cSTAVROS APODEXIA,cOXEIAI ARCHAION,cVAREIAI ARCHAION
cAPODERMA ARCHAION,cAPOTHEMA,cKLASMA,cREVMA,cPIASMA ARCHAION,cTINAGMA,cANATRICHISMA,cSEISMA
cSYNAGMA ARCHAION,dMETA STAVROU,cOYRANISMA ARCHAION,cTHEMA,cLEMOI,cDYO,cTRIA,cTESSERA,cKRATIMATA
cAPESO EXO NEO,cFTHORA ARCHAION,cIMIFTHORA,cTROMIKON ARCHAION,cKATAVA TROMIKON,cPELASTON
cPSIFISTON,cKONTEVMA,cCHOREVMA ARCHAION,cRAPISMA,cPARAKALESMA ARCHAION,cPARAKLITIKI ARCHAION
cICHADIN,cNANA,cPETASMA,cKONTEVMA ALLO,cTROMIKON ALLO,cSTRAGGISMATA,cGRONTHISMATA,cISON NEO
cOLIGON NEO,cOXEIA NEO,cPETASTI,cKOUFISMA,cPETASTOKOUFISMA,cKRATIMOKOUFISMA,cPELASTON NEO
cKENTIMATA NEO ANO,cKENTIMA NEO ANO,cYPSILI,cAPOSTROFOS NEO,cAPOSTROFOI SYNDESMOS NEO,cYPORROI
cKRATIMOYPORROON,cELAFRON,cCHAMILI,cMIKRON ISON,cVAREIA NEO,cPIASMA NEO,cPSIFISTON NEO,cOMALON
cANTIKENOMA,cLYGISMA,cPARAKLITIKI NEO,cPARAKALESMA NEO,cETERON PARAKALESMA,cKYLISMA
cANTIKENOKYLISMA,cTROMIKON NEO,cEKSTREPTON,cSYNAGMA NEO,cSYRMA,cCHOREVMA NEO,cEPEGERMA,cSEISMA NEO
cXIRON KLASMA,cTROMIKOPSIFISTON,cPSIFISTOLYGISMA,cTROMIKOLYGISMA,cTROMIKOPARAKALESMA
cPSIFISTOPARAKALESMA,cTROMIKOSYNAGMA,cPSIFISTOSYNAGMA,cGORGOSYNTHETON,cARGOSYNTHETON
cETERON ARGOSYNTHETON,cOYRANISMA NEO,cTHEMATISMOS ESO,dEXO,cTHEMA APLOUN,cTHES KAI APOTHES
cKATAVASMA,cENDOFONON,cYFEN KATO,dANO,cSTAVROS,cKLASMA ANO,cDIPLI ARCHAION,cKRATIMA ARCHAION,dALLO
dNEO,cAPODERMA NEO,cAPLI,cDIPLI,cTRIPLI,cTETRAPLI,cKORONIS,cLEIMMA ENOS CHRONOU,dDYO CHRONON
dTRION CHRONON,dTESSARON CHRONON,dIMISEOS CHRONOU,cGORGON NEO ANO,dPARESTIGMENON ARISTERA,eDEXIA
cDIGORGON,dPARESTIGMENON ARISTERA KATO,fANO,eDEXIA,cTRIGORGON,cARGON,cIMIDIARGON,cDIARGON
cAGOGI POLI ARGI,dARGOTERI,dARGI,dMETRIA,dMESI,dGORGI,dGORGOTERI,dPOLI GORGI
cMARTYRIA PROTOS ICHOS,dALLI PROTOS ICHOS,dDEYTEROS ICHOS,dALLI DEYTEROS ICHOS,dTRITOS ICHOS
dTRIFONIAS,dTETARTOS ICHOS,eLEGETOS ICHOS,dLEGETOS ICHOS,dPLAGIOS ICHOS,cISAKIA TELOUS ICHIMATOS
cAPOSTROFOI TELOUS ICHIMATOS,cFANEROSIS TETRAFONIAS,dMONOFONIAS,dDIFONIAS,cMARTYRIA VARYS ICHOS
dPROTOVARYS ICHOS,dPLAGIOS TETARTOS ICHOS,cGORTHMIKON N APLOUN,eDIPLOUN,cENARXIS KAI FTHORA VOU
cIMIFONON,cIMIFTHORON,cFTHORA ARCHAION DEYTEROU ICHOU,dDIATONIKI PA,eNANA,dNAOS ICHOS
dDIATONIKI DI,dSKLIRON DIATONON DI,dDIATONIKI KE,eZO,eNI KATO,fANO,dMALAKON CHROMA DIFONIAS
fMONOFONIAS,cFHTORA SKLIRON CHROMA VASIS,cFTHORA SKLIRON CHROMA SYNAFI,dNENANO,cCHROA ZYGOS
dKLITON,dSPATHI,cFTHORA I YFESIS TETARTIMORION,dENARMONIOS ANTIFONIA,cYFESIS TRITIMORION
cDIESIS TRITIMORION,dTETARTIMORION,dAPLI DYO DODEKATA,dMONOGRAMMOS TESSERA DODEKATA
dDIGRAMMOS EX DODEKATA,dTRIGRAMMOS OKTO DODEKATA,cYFESIS APLI DYO DODEKATA
dMONOGRAMMOS TESSERA DODEKATA,dDIGRAMMOS EX DODEKATA,dTRIGRAMMOS OKTO DODEKATA,cGENIKI DIESIS
dYFESIS,cDIASTOLI APLI MIKRI,eMEGALI,dDIPLI,dTHESEOS,cSIMANSIS THESEOS,eDISIMOU,eTRISIMOU
eTETRASIMOU,dARSEOS,eDISIMOU,eTRISIMOU,eTETRASIMOU,cDIGRAMMA GG,cDIFTOGGOS OU,cSTIGMA,cARKTIKO PA
dVOU,dGA,dDI,dKE,dZO,dNI,cKENTIMATA NEO MESO,cKENTIMA NEO MESO,cKENTIMATA NEO KATO
cKENTIMA NEO KATO,cKLASMA KATO,cGORGON NEO KATO,1D100:MUSICAL SYMBOL SINGLE BARLINE
bDOUBLE BARLINE,bFINAL BARLINE,bREVERSE FINAL BARLINE,bDASHED BARLINE,bSHORT BARLINE
bLEFT REPEAT SIGN,bRIGHT REPEAT SIGN,bREPEAT DOTS,bDAL SEGNO,bDA CAPO,bSEGNO,bCODA
bREPEATED FIGURE-1,cFIGURE-2,cFIGURE-3,bFERMATA,cBELOW,bBREATH MARK,bCAESURA,bBRACE,bBRACKET
bONE-LINE STAFF,bTWO-LINE STAFF,bTHREE-LINE STAFF,bFOUR-LINE STAFF,bFIVE-LINE STAFF
bSIX-LINE STAFF,bSIX-STRING FRETBOARD,bFOUR-STRING FRETBOARD,bG CLEF,dOTTAVA ALTA,eBASSA,bC CLEF
bF CLEF,dOTTAVA ALTA,eBASSA,bDRUM CLEF-1,cCLEF-2,1D129:bMULTIPLE MEASURE REST,bDOUBLE SHARP,cFLAT
bFLAT UP,cDOWN,bNATURAL UP,cDOWN,bSHARP UP,cDOWN,bQUARTER TONE SHARP,dFLAT,bCOMMON TIME,bCUT TIME
bOTTAVA ALTA,cBASSA,bQUINDICESIMA ALTA,cBASSA,bMULTI REST,bWHOLE REST,bHALF REST,bQUARTER REST
bEIGHTH REST,bSIXTEENTH REST,bTHIRTY-SECOND REST,bSIXTY-FOURTH REST
bONE HUNDRED TWENTY-EIGHTH REST,bX NOTEHEAD,bPLUS NOTEHEAD,bCIRCLE X NOTEHEAD
bSQUARE NOTEHEAD WHITE,dBLACK,bTRIANGLE NOTEHEAD UP WHITE,eBLACK,dLEFT WHITE,eBLACK,dRIGHT WHITE
eBLACK,dDOWN WHITE,eBLACK,dUP RIGHT WHITE,fBLACK,bMOON NOTEHEAD WHITE,dBLACK
bTRIANGLE-ROUND NOTEHEAD DOWN WHITE,eBLACK,bPARENTHESIS NOTEHEAD,bVOID NOTEHEAD,bNOTEHEAD BLACK
bNULL NOTEHEAD,bCLUSTER NOTEHEAD WHITE,dBLACK,bBREVE,bWHOLE NOTE,bHALF NOTE,bQUARTER NOTE
bEIGHTH NOTE,bSIXTEENTH NOTE,bTHIRTY-SECOND NOTE,bSIXTY-FOURTH NOTE
bONE HUNDRED TWENTY-EIGHTH NOTE,bCOMBINING STEM,cSPRECHGESANG STEM,cTREMOLO-1,cTREMOLO-2
cTREMOLO-3,bFINGERED TREMOLO-1,cTREMOLO-2,cTREMOLO-3,bCOMBINING AUGMENTATION DOT,cFLAG-1,cFLAG-2
cFLAG-3,cFLAG-4,cFLAG-5,bBEGIN BEAM,bEND BEAM,bBEGIN TIE,bEND TIE,bBEGIN SLUR,bEND SLUR
bBEGIN PHRASE,bEND PHRASE,bCOMBINING ACCENT,cSTACCATO,cTENUTO,cSTACCATISSIMO,cMARCATO
cMARCATO-STACCATO,cACCENT-STACCATO,cLOURE,bARPEGGIATO UP,cDOWN,bCOMBINING DOIT,cRIP,cFLIP,cSMEAR
cBEND,cDOUBLE TONGUE,cTRIPLE TONGUE,bRINFORZANDO,bSUBITO,bZ,bPIANO,bMEZZO,bFORTE,bCRESCENDO
bDECRESCENDO,bGRACE NOTE SLASH,dNO SLASH,bTR,bTURN,bINVERTED TURN,bTURN SLASH,cUP
bORNAMENT STROKE-1,cSTROKE-2,cSTROKE-3,cSTROKE-4,cSTROKE-5,cSTROKE-6,cSTROKE-7,cSTROKE-8,cSTROKE-9
cSTROKE-10,cSTROKE-11,bHAUPTSTIMME,bNEBENSTIMME,bEND OF STIMME,bDEGREE SLASH,bCOMBINING DOWN BOW
cUP BOW,cHARMONIC,cSNAP PIZZICATO,bPEDAL MARK,cUP MARK,bHALF PEDAL MARK,bGLISSANDO UP,cDOWN
bWITH FINGERNAILS,bDAMP,cALL,bMAXIMA,bLONGA,bBREVIS,bSEMIBREVIS WHITE,cBLACK,bMINIMA,cBLACK
bSEMIMINIMA WHITE,cBLACK,bFUSA WHITE,cBLACK,bLONGA PERFECTA REST,cIMPERFECTA REST,bBREVIS REST
bSEMIBREVIS REST,bMINIMA REST,bSEMIMINIMA REST,bTEMPUS PERFECTUM CUM PROLATIONE PERFECTA
fIMPERFECTA,fPERFECTA DIMINUTION-1,cIMPERFECTUM CUM PROLATIONE PERFECTA,fIMPERFECTA,gDIMINUTION-1
gDIMINUTION-2,gDIMINUTION-3,bCROIX,bGREGORIAN C CLEF,cF CLEF,bSQUARE B,bVIRGA,bPODATUS,bCLIVIS
bSCANDICUS,bCLIMACUS,bTORCULUS,bPORRECTUS,cFLEXUS,bSCANDICUS FLEXUS,bTORCULUS RESUPINUS
bPES SUBPUNCTIS,bKIEVAN C CLEF,cEND OF PIECE,cFINAL NOTE,cRECITATIVE MARK,cWHOLE NOTE,cHALF NOTE
cQUARTER NOTE STEM DOWN,fUP,cEIGHTH NOTE STEM DOWN,fUP,cFLAT SIGN,bSORI,bKORON
1D200:GREEK VOCAL NOTATION SYMBOL-1,cSYMBOL-2,cSYMBOL-3,cSYMBOL-4,cSYMBOL-5,cSYMBOL-6,cSYMBOL-7
cSYMBOL-8,cSYMBOL-9,cSYMBOL-10,cSYMBOL-11,cSYMBOL-12,cSYMBOL-13,cSYMBOL-14,cSYMBOL-15,cSYMBOL-16
cSYMBOL-17,cSYMBOL-18,cSYMBOL-19,cSYMBOL-20,cSYMBOL-21,cSYMBOL-22,cSYMBOL-23,cSYMBOL-24,cSYMBOL-50
cSYMBOL-51,cSYMBOL-52,cSYMBOL-53,cSYMBOL-54,aINSTRUMENTAL NOTATION SYMBOL-1,cSYMBOL-2,cSYMBOL-4
cSYMBOL-5,cSYMBOL-7,cSYMBOL-8,cSYMBOL-11,cSYMBOL-12,cSYMBOL-13,cSYMBOL-14,cSYMBOL-17,cSYMBOL-18
cSYMBOL-19,cSYMBOL-23,cSYMBOL-24,cSYMBOL-25,cSYMBOL-26,cSYMBOL-27,cSYMBOL-29,cSYMBOL-30,cSYMBOL-32
cSYMBOL-36,cSYMBOL-37,cSYMBOL-38,cSYMBOL-39,cSYMBOL-40,cSYMBOL-42,cSYMBOL-43,cSYMBOL-45,cSYMBOL-47
cSYMBOL-48,cSYMBOL-49,cSYMBOL-50,cSYMBOL-51,cSYMBOL-52,cSYMBOL-53,cSYMBOL-54
COMBINING GREEK MUSICAL TRISEME,cTETRASEME,cPENTASEME,GREEK MUSICAL LEIMMA
1D2E0:MAYAN NUMERAL ZERO,bONE,bTWO,bTHREE,bFOUR,bFIVE,bSIX,bSEVEN,bEIGHT,bNINE,bTEN,bELEVEN
bTWELVE,bTHIRTEEN,bFOURTEEN,bFIFTEEN,bSIXTEEN,bSEVENTEEN,bEIGHTEEN,bNINETEEN
1D300:MONOGRAM FOR EARTH,DIGRAM FOR HEAVENLY EARTH,bHUMAN EARTH,bEARTHLY HEAVEN,cHUMAN,bEARTH
TETRAGRAM FOR CENTRE,bFULL CIRCLE,bMIRED,bBARRIER,bKEEPING SMALL,bCONTRARIETY,bASCENT,bOPPOSITION
bBRANCHING OUT,bDEFECTIVENESS OR DISTORTION,bDIVERGENCE,bYOUTHFULNESS,bINCREASE,bPENETRATION
bREACH,bCONTACT,bHOLDING BACK,bWAITING,bFOLLOWING,bADVANCE,bRELEASE,bRESISTANCE,bEASE,bJOY
bCONTENTION,bENDEAVOUR,bDUTIES,bCHANGE,bDECISIVENESS,bBOLD RESOLUTION,bPACKING,bLEGION,bCLOSENESS
bKINSHIP,bGATHERING,bSTRENGTH,bPURITY,bFULLNESS,bRESIDENCE,bLAW OR MODEL,bRESPONSE,bGOING TO MEET
bENCOUNTERS,bSTOVE,bGREATNESS,bENLARGEMENT,bPATTERN,bRITUAL,bFLIGHT,bVASTNESS OR WASTING
bCONSTANCY,bMEASURE,bETERNITY,bUNITY,bDIMINISHMENT,bCLOSED MOUTH,bGUARDEDNESS,bGATHERING IN
bMASSING,bACCUMULATION,bEMBELLISHMENT,bDOUBT,bWATCH,bSINKING,bINNER,bDEPARTURE,bDARKENING,bDIMMING
bEXHAUSTION,bSEVERANCE,bSTOPPAGE,bHARDNESS,bCOMPLETION,bCLOSURE,bFAILURE,bAGGRAVATION,bCOMPLIANCE
bON THE VERGE,bDIFFICULTIES,bLABOURING,bFOSTERING,1D360:COUNTING ROD UNIT DIGIT ONE,dTWO,dTHREE
dFOUR,dFIVE,dSIX,dSEVEN,dEIGHT,dNINE,bTENS DIGIT ONE,dTWO,dTHREE,dFOUR,dFIVE,dSIX,dSEVEN,dEIGHT
dNINE,IDEOGRAPHIC TALLY MARK ONE,cTWO,cTHREE,cFOUR,cFIVE,TALLY MARK ONE,bFIVE
1D400:MATHEMATICAL BOLD CAPITAL A,cB,cC,cD,cE,cF,cG,cH,cI,cJ,cK,cL,cM,cN,cO,cP,cQ,cR,cS,cT,cU,cV
cW,cX,cY,cZ,bSMALL A,cB,cC,cD,cE,cF,cG,cH,cI,cJ,cK,cL,cM,cN,cO,cP,cQ,cR,cS,cT,cU,cV,cW,cX,cY,cZ
aITALIC CAPITAL A,cB,cC,cD,cE,cF,cG,cH,cI,cJ,cK,cL,cM,cN,cO,cP,cQ,cR,cS,cT,cU,cV,cW,cX,cY,cZ
bSMALL A,cB,cC,cD,cE,cF,cG,1D456:cI,cJ,cK,cL,cM,cN,cO,cP,cQ,cR,cS,cT,cU,cV,cW,cX,cY,cZ
aBOLD ITALIC CAPITAL A,dB,dC,dD,dE,dF,dG,dH,dI,dJ,dK,dL,dM,dN,dO,dP,dQ,dR,dS,dT,dU,dV,dW,dX,dY,dZ
cSMALL A,dB,dC,dD,dE,dF,dG,dH,dI,dJ,dK,dL,dM,dN,dO,dP,dQ,dR,dS,dT,dU,dV,dW,dX,dY,dZ
aSCRIPT CAPITAL A,1D49E:cC,cD,1D4A2:cG,1D4A5:cJ,cK,1D4A9:cN,cO,cP,cQ,1D4AE:cS,cT,cU,cV,cW,cX,cY,cZ
bSMALL A,cB,cC,cD,1D4BB:cF,1D4BD:cH,cI,cJ,cK,cL,cM,cN,1D4C5:cP,cQ,cR,cS,cT,cU,cV,cW,cX,cY,cZ
aBOLD SCRIPT CAPITAL A,dB,dC,dD,dE,dF,dG,dH,dI,dJ,dK,dL,dM,dN,dO,dP,dQ,dR,dS,dT,dU,dV,dW,dX,dY,dZ
cSMALL A,dB,dC,dD,dE,dF,dG,dH,dI,dJ,dK,dL,dM,dN,dO,dP,dQ,dR,dS,dT,dU,dV,dW,dX,dY,dZ
aFRAKTUR CAPITAL A,cB,1D507:cD,cE,cF,cG,1D50D:cJ,cK,cL,cM,cN,cO,cP,cQ,1D516:cS,cT,cU,cV,cW,cX,cY
1D51E:bSMALL A,cB,cC,cD,cE,cF,cG,cH,cI,cJ,cK,cL,cM,cN,cO,cP,cQ,cR,cS,cT,cU,cV,cW,cX,cY,cZ
aDOUBLE-STRUCK CAPITAL A,cB,1D53B:cD,cE,cF,cG,1D540:cI,cJ,cK,cL,cM,1D546:cO,1D54A:cS,cT,cU,cV,cW
cX,cY,1D552:bSMALL A,cB,cC,cD,cE,cF,cG,cH,cI,cJ,cK,cL,cM,cN,cO,cP,cQ,cR,cS,cT,cU,cV,cW,cX,cY,cZ
aBOLD FRAKTUR CAPITAL A,dB,dC,dD,dE,dF,dG,dH,dI,dJ,dK,dL,dM,dN,dO,dP,dQ,dR,dS,dT,dU,dV,dW,dX,dY,dZ
cSMALL A,dB,dC,dD,dE,dF,dG,dH,dI,dJ,dK,dL,dM,dN,dO,dP,dQ,dR,dS,dT,dU,dV,dW,dX,dY,dZ
aSANS-SERIF CAPITAL A,cB,cC,cD,cE,cF,cG,cH,cI,cJ,cK,cL,cM,cN,cO,cP,cQ,cR,cS,cT,cU,cV,cW,cX,cY,cZ
bSMALL A,cB,cC,cD,cE,cF,cG,cH,cI,cJ,cK,cL,cM,cN,cO,cP,cQ,cR,cS,cT,cU,cV,cW,cX,cY,cZ
bBOLD CAPITAL A,dB,dC,dD,dE,dF,dG,dH,dI,dJ,dK,dL,dM,dN,dO,dP,dQ,dR,dS,dT,dU,dV,dW,dX,dY,dZ
cSMALL A,dB,dC,dD,dE,dF,dG,dH,dI,dJ,dK,dL,dM,dN,dO,dP,dQ,dR,dS,dT,dU,dV,dW,dX,dY,dZ
bITALIC CAPITAL A,dB,dC,dD,dE,dF,dG,dH,dI,dJ,dK,dL,dM,dN,dO,dP,dQ,dR,dS,dT,dU,dV,dW,dX,dY,dZ
cSMALL A,dB,dC,dD,dE,dF,dG,dH,dI,dJ,dK,dL,dM,dN,dO,dP,dQ,dR,dS,dT,dU,dV,dW,dX,dY,dZ
bBOLD ITALIC CAPITAL A,eB,eC,eD,eE,eF,eG,eH,eI,eJ,eK,eL,eM,eN,eO,eP,eQ,eR,eS,eT,eU,eV,eW,eX,eY,eZ
dSMALL A,eB,eC,eD,eE,eF,eG,eH,eI,eJ,eK,eL,eM,eN,eO,eP,eQ,eR,eS,eT,eU,eV,eW,eX,eY,eZ
aMONOSPACE CAPITAL A,cB,cC,cD,cE,cF,cG,cH,cI,cJ,cK,cL,cM,cN,cO,cP,cQ,cR,cS,cT,cU,cV,cW,cX,cY,cZ
bSMALL A,cB,cC,cD,cE,cF,cG,cH,cI,cJ,cK,cL,cM,cN,cO,cP,cQ,cR,cS,cT,cU,cV,cW,cX,cY,cZ
aITALIC SMALL DOTLESS I,dJ,1D6A8:aBOLD CAPITAL ALPHA,cBETA,cGAMMA,cDELTA,cEPSILON,cZETA,cETA
cTHETA,cIOTA,cKAPPA,cLAMDA,cMU,cNU,cXI,cOMICRON,cPI,cRHO,cTHETA SYMBOL,cSIGMA,cTAU,cUPSILON,cPHI
cCHI,cPSI,cOMEGA,bNABLA,bSMALL ALPHA,cBETA,cGAMMA,cDELTA,cEPSILON,cZETA,cETA,cTHETA,cIOTA,cKAPPA
cLAMDA,cMU,cNU,cXI,cOMICRON,cPI,cRHO,cFINAL SIGMA,cSIGMA,cTAU,cUPSILON,cPHI,cCHI,cPSI,cOMEGA
bPARTIAL DIFFERENTIAL,bEPSILON SYMBOL,bTHETA SYMBOL,bKAPPA SYMBOL,bPHI SYMBOL,bRHO SYMBOL
bPI SYMBOL,aITALIC CAPITAL ALPHA,cBETA,cGAMMA,cDELTA,cEPSILON,cZETA,cETA,cTHETA,cIOTA,cKAPPA
cLAMDA,cMU,cNU,cXI,cOMICRON,cPI,cRHO,cTHETA SYMBOL,cSIGMA,cTAU,cUPSILON,cPHI,cCHI,cPSI,cOMEGA
bNABLA,bSMALL ALPHA,cBETA,cGAMMA,cDELTA,cEPSILON,cZETA,cETA,cTHETA,cIOTA,cKAPPA,cLAMDA,cMU,cNU,cXI
cOMICRON,cPI,cRHO,cFINAL SIGMA,cSIGMA,cTAU,cUPSILON,cPHI,cCHI,cPSI,cOMEGA,bPARTIAL DIFFERENTIAL
bEPSILON SYMBOL,bTHETA SYMBOL,bKAPPA SYMBOL,bPHI SYMBOL,bRHO SYMBOL,bPI SYMBOL
aBOLD ITALIC CAPITAL ALPHA,dBETA,dGAMMA,dDELTA,dEPSILON,dZETA,dETA,dTHETA,dIOTA,dKAPPA,dLAMDA,dMU
dNU,dXI,dOMICRON,dPI,dRHO,dTHETA SYMBOL,dSIGMA,dTAU,dUPSILON,dPHI,dCHI,dPSI,dOMEGA,cNABLA
cSMALL ALPHA,dBETA,dGAMMA,dDELTA,dEPSILON,dZETA,dETA,dTHETA,dIOTA,dKAPPA,dLAMDA,dMU,dNU,dXI
dOMICRON,dPI,dRHO,dFINAL SIGMA,dSIGMA,dTAU,dUPSILON,dPHI,dCHI,dPSI,dOMEGA,cPARTIAL DIFFERENTIAL
cEPSILON SYMBOL,cTHETA SYMBOL,cKAPPA SYMBOL,cPHI SYMBOL,cRHO SYMBOL,cPI SYMBOL
aSANS-SERIF BOLD CAPITAL ALPHA,dBETA,dGAMMA,dDELTA,dEPSILON,dZETA,dETA,dTHETA,dIOTA,dKAPPA,dLAMDA
dMU,dNU,dXI,dOMICRON,dPI,dRHO,dTHETA SYMBOL,dSIGMA,dTAU,dUPSILON,dPHI,dCHI,dPSI,dOMEGA,cNABLA
cSMALL ALPHA,dBETA,dGAMMA,dDELTA,dEPSILON,dZETA,dETA,dTHETA,dIOTA,dKAPPA,dLAMDA,dMU,dNU,dXI
dOMICRON,dPI,dRHO,dFINAL SIGMA,dSIGMA,dTAU,dUPSILON,dPHI,dCHI,dPSI,dOMEGA,cPARTIAL DIFFERENTIAL
cEPSILON SYMBOL,cTHETA SYMBOL,cKAPPA SYMBOL,cPHI SYMBOL,cRHO SYMBOL,cPI SYMBOL
cITALIC CAPITAL ALPHA,eBETA,eGAMMA,eDELTA,eEPSILON,eZETA,eETA,eTHETA,eIOTA,eKAPPA,eLAMDA,eMU,eNU
eXI,eOMICRON,ePI,eRHO,eTHETA SYMBOL,eSIGMA,eTAU,eUPSILON,ePHI,eCHI,ePSI,eOMEGA,dNABLA,dSMALL ALPHA
eBETA,eGAMMA,eDELTA,eEPSILON,eZETA,eETA,eTHETA,eIOTA,eKAPPA,eLAMDA,eMU,eNU,eXI,eOMICRON,ePI,eRHO
eFINAL SIGMA,eSIGMA,eTAU,eUPSILON,ePHI,eCHI,ePSI,eOMEGA,dPARTIAL DIFFERENTIAL,dEPSILON SYMBOL
dTHETA SYMBOL,dKAPPA SYMBOL,dPHI SYMBOL,dRHO SYMBOL,dPI SYMBOL,aBOLD CAPITAL DIGAMMA
bSMALL DIGAMMA,1D7CE:bDIGIT ZERO,cONE,cTWO,cTHREE,cFOUR,cFIVE,cSIX,cSEVEN,cEIGHT,cNINE
aDOUBLE-STRUCK DIGIT ZERO,cONE,cTWO,cTHREE,cFOUR,cFIVE,cSIX,cSEVEN,cEIGHT,cNINE
aSANS-SERIF DIGIT ZERO,cONE,cTWO,cTHREE,cFOUR,cFIVE,cSIX,cSEVEN,cEIGHT,cNINE,bBOLD DIGIT ZERO,dONE
dTWO,dTHREE,dFOUR,dFIVE,dSIX,dSEVEN,dEIGHT,dNINE,aMONOSPACE DIGIT ZERO,cONE,cTWO,cTHREE,cFOUR
cFIVE,cSIX,cSEVEN,cEIGHT,cNINE,SIGNWRITING HAND-FIST INDEX,aHAND-CIRCLE INDEX,aHAND-CUP INDEX
aHAND-OVAL INDEX,aHAND-HINGE INDEX,aHAND-ANGLE INDEX,aHAND-FIST INDEX BENT,aHAND-CIRCLE INDEX BENT
aHAND-FIST THUMB UNDER INDEX BENT,bINDEX RAISED KNUCKLE,cCUPPED,cHINGED,dLOW
aHAND-CIRCLE INDEX HINGE,aHAND-FIST INDEX MIDDLE,aHAND-CIRCLE INDEX MIDDLE
aHAND-FIST INDEX MIDDLE BENT,dRAISED KNUCKLES,dHINGED,cUP MIDDLE HINGED,cHINGED MIDDLE UP
cMIDDLE CONJOINED,eINDEX BENT,eMIDDLE BENT,eCUPPED,eHINGED,dCROSSED
aHAND-CIRCLE INDEX MIDDLE CROSSED,aHAND-FIST MIDDLE BENT OVER INDEX,bINDEX BENT OVER MIDDLE
cMIDDLE THUMB,aHAND-CIRCLE INDEX MIDDLE THUMB,aHAND-FIST INDEX MIDDLE STRAIGHT THUMB BENT
dBENT THUMB STRAIGHT,dTHUMB BENT,dHINGED SPREAD THUMB SIDE,cUP MIDDLE HINGED THUMB SIDE,gCONJOINED
cHINGED MIDDLE UP THUMB SIDE,cMIDDLE UP SPREAD THUMB FORWARD,dTHUMB CUPPED,eCIRCLED,eHOOKED
eHINGED,bTHUMB BETWEEN INDEX MIDDLE STRAIGHT,bINDEX MIDDLE CONJOINED THUMB SIDE,gCONJOINED,gBENT
bMIDDLE THUMB HOOKED INDEX UP,bINDEX THUMB HOOKED MIDDLE UP,cMIDDLE CONJOINED HINGED THUMB SIDE
dCROSSED THUMB SIDE,dCONJOINED THUMB FORWARD,eCUPPED THUMB FORWARD,bMIDDLE THUMB CUPPED INDEX UP
bINDEX THUMB CUPPED MIDDLE UP,bMIDDLE THUMB CIRCLED INDEX UP,fHINGED
bINDEX THUMB ANGLED OUT MIDDLE UP,eIN MIDDLE UP,dCIRCLED MIDDLE UP,cMIDDLE THUMB CONJOINED HINGED
eANGLED OUT,f,bMIDDLE THUMB ANGLED OUT INDEX UP,gCROSSED,eINDEX UP
bINDEX THUMB HOOKED MIDDLE HINGED,aHAND-FLAT FOUR FINGERS,dBENT,dHINGED,dCONJOINED,eSPLIT
aHAND-CLAW FOUR FINGERS CONJOINED,aHAND-FIST FOUR FINGERS CONJOINED BENT
aHAND-HINGE FOUR FINGERS CONJOINED,aHAND-FLAT FIVE FINGERS SPREAD,bHEEL FIVE FINGERS SPREAD
bFIVE FINGERS SPREAD FOUR BENT,bHEEL FIVE FINGERS SPREAD FOUR BENT,bFIVE FINGERS SPREAD BENT
bHEEL FIVE FINGERS SPREAD BENT,bFIVE FINGERS SPREAD THUMB FORWARD,aHAND-CUP FIVE FINGERS SPREAD
eOPEN,aHAND-HINGE FIVE FINGERS SPREAD OPEN,aHAND-OVAL FIVE FINGERS SPREAD
aHAND-FLAT FIVE FINGERS SPREAD HINGED,fTHUMB SIDE,fNO THUMB,b,bBETWEEN PALM FACINGS,bHEEL
bTHUMB SIDE,bHEEL THUMB SIDE,bTHUMB BENT,cFORWARD,bSPLIT INDEX THUMB SIDE,cCENTRE,dTHUMB SIDE
fBENT,cLITTLE,aHAND-CLAW,bTHUMB SIDE,bNO THUMB,bTHUMB FORWARD,aHAND-HOOK CURLICUE,b,aHAND-CUP OPEN
b,bOPEN THUMB SIDE,bTHUMB SIDE,bOPEN NO THUMB,bNO THUMB,bOPEN THUMB FORWARD,bTHUMB FORWARD
aHAND-CURLICUE OPEN,b,aHAND-CIRCLE,aHAND-OVAL,bTHUMB SIDE,bNO THUMB,bTHUMB FORWARD
aHAND-HINGE OPEN,cTHUMB FORWARD,b,bSMALL,bOPEN THUMB SIDE,bTHUMB SIDE,bOPEN NO THUMB,bNO THUMB
bTHUMB SIDE TOUCHING INDEX,cBETWEEN MIDDLE RING,aHAND-ANGLE,aHAND-FIST INDEX MIDDLE RING
aHAND-CIRCLE INDEX MIDDLE RING,aHAND-HINGE INDEX MIDDLE RING,aHAND-ANGLE INDEX MIDDLE RING
aHAND-HINGE LITTLE,aHAND-FIST INDEX MIDDLE RING BENT,eCONJOINED
aHAND-HINGE INDEX MIDDLE RING CONJOINED,aHAND-FIST LITTLE DOWN,dRIPPLE STRAIGHT,eCURVED
dOTHERS CIRCLED,cUP,bTHUMB UNDER LITTLE UP,aHAND-CIRCLE LITTLE UP,aHAND-OVAL LITTLE UP
aHAND-ANGLE LITTLE UP,aHAND-FIST LITTLE RAISED KNUCKLE,cBENT,cTOUCHES THUMB,cTHUMB
aHAND-HINGE LITTLE THUMB,aHAND-FIST LITTLE INDEX THUMB,aHAND-HINGE LITTLE INDEX THUMB
aHAND-ANGLE LITTLE INDEX THUMB INDEX THUMB OUT,g,aHAND-FIST LITTLE INDEX,aHAND-CIRCLE LITTLE INDEX
aHAND-HINGE LITTLE INDEX,aHAND-ANGLE LITTLE INDEX,aHAND-FIST INDEX MIDDLE LITTLE
aHAND-CIRCLE INDEX MIDDLE LITTLE,aHAND-HINGE INDEX MIDDLE LITTLE,bRING
aHAND-ANGLE INDEX MIDDLE LITTLE,aHAND-FIST INDEX MIDDLE CROSS LITTLE
aHAND-CIRCLE INDEX MIDDLE CROSS LITTLE,aHAND-FIST RING DOWN
aHAND-HINGE RING DOWN INDEX THUMB HOOK MIDDLE,aHAND-ANGLE RING DOWN MIDDLE THUMB INDEX CROSS
aHAND-FIST RING UP,cRAISED KNUCKLE,cLITTLE,aHAND-CIRCLE RING LITTLE,aHAND-OVAL RING LITTLE
aHAND-ANGLE RING LITTLE,aHAND-FIST RING MIDDLE,dCONJOINED,dRAISED KNUCKLES,cINDEX,cTHUMB
aHAND-HOOK RING THUMB,aHAND-FIST INDEX RING LITTLE,aHAND-CIRCLE INDEX RING LITTLE
aHAND-CURLICUE INDEX RING LITTLE ON,aHAND-HOOK INDEX RING LITTLE OUT,eIN,eUNDER
aHAND-CUP INDEX RING LITTLE,aHAND-HINGE INDEX RING LITTLE,aHAND-ANGLE INDEX RING LITTLE OUT,e
aHAND-FIST MIDDLE DOWN,aHAND-HINGE MIDDLE,aHAND-FIST MIDDLE UP,aHAND-CIRCLE MIDDLE UP
aHAND-FIST MIDDLE RAISED KNUCKLE,cUP THUMB SIDE,aHAND-HOOK MIDDLE THUMB
aHAND-FIST MIDDLE THUMB LITTLE,cLITTLE,cRING LITTLE,aHAND-CIRCLE MIDDLE RING LITTLE
aHAND-CURLICUE MIDDLE RING LITTLE ON,aHAND-CUP MIDDLE RING LITTLE,aHAND-HINGE MIDDLE RING LITTLE
aHAND-ANGLE MIDDLE RING LITTLE OUT,eIN,e,aHAND-CIRCLE MIDDLE RING LITTLE BENT
aHAND-CLAW MIDDLE RING LITTLE CONJOINED,fSIDE,aHAND-HOOK MIDDLE RING LITTLE CONJOINED OUT,fIN,f
aHAND-HINGE INDEX HINGED,aHAND-FIST INDEX THUMB SIDE,aHAND-HINGE INDEX THUMB SIDE
aHAND-FIST INDEX THUMB SIDE THUMB DIAGONAL,fCONJOINED,fBENT,eINDEX BENT,eBOTH BENT,eINDEX HINGE
dFORWARD INDEX STRAIGHT,fBENT,dHOOK,dCURLICUE,dCURVE THUMB INSIDE
aHAND-CLAW INDEX THUMB CURVE THUMB INSIDE,aHAND-FIST INDEX THUMB CURVE THUMB UNDER,dCIRCLE
aHAND-CUP INDEX THUMB,dOPEN,aHAND-HINGE INDEX THUMB OPEN,dLARGE,d,dSMALL
aHAND-ANGLE INDEX THUMB OUT,dIN,d,aHAND-FIST THUMB,cHEEL,cSIDE DIAGONAL,dCONJOINED,dBENT,cFORWARD
cBETWEEN INDEX MIDDLE,dMIDDLE RING,dRING LITTLE,cUNDER TWO FINGERS,cOVER TWO FINGERS
cUNDER THREE FINGERS,dFOUR FINGERS,cOVER FOUR RAISED KNUCKLES,b,bHEEL,aTOUCH SINGLE,bMULTIPLE
bBETWEEN,aGRASP SINGLE,bMULTIPLE,bBETWEEN,aSTRIKE SINGLE,bMULTIPLE,bBETWEEN,aBRUSH SINGLE
bMULTIPLE,bBETWEEN,aRUB SINGLE,bMULTIPLE,bBETWEEN,aSURFACE SYMBOLS,bBETWEEN,aSQUEEZE LARGE SINGLE
bSMALL SINGLE,bLARGE MULTIPLE,bSMALL MULTIPLE,bSEQUENTIAL,aFLICK LARGE SINGLE,bSMALL SINGLE
bLARGE MULTIPLE,bSMALL MULTIPLE,bSEQUENTIAL,aSQUEEZE FLICK ALTERNATING
aMOVEMENT-HINGE UP DOWN LARGE,dSMALL,cSEQUENTIAL,bDOWN SEQUENTIAL,bUP DOWN ALTERNATING LARGE
eSMALL,bSIDE TO SIDE SCISSORS,aMOVEMENT-WALLPLANE FINGER CONTACT
aMOVEMENT-FLOORPLANE FINGER CONTACT,aMOVEMENT-WALLPLANE SINGLE STRAIGHT SMALL,dMEDIUM,dLARGE
dLARGEST,cWRIST FLEX,bDOUBLE STRAIGHT,cWRIST FLEX,cALTERNATING,dWRIST FLEX,bCROSS
bTRIPLE STRAIGHT MOVEMENT,cWRIST FLEX,cALTERNATING,dWRIST FLEX,bBEND SMALL,cMEDIUM,cLARGE
bCORNER SMALL,cMEDIUM,cLARGE,cROTATION,bCHECK SMALL,cMEDIUM,cLARGE,bBOX SMALL,cMEDIUM,cLARGE
bZIGZAG SMALL,cMEDIUM,cLARGE,bPEAKS SMALL,cMEDIUM,cLARGE
aTRAVEL-WALLPLANE ROTATION-WALLPLANE SINGLE,cDOUBLE,cALTERNATING,bROTATION-FLOORPLANE SINGLE
cDOUBLE,cALTERNATING,bSHAKING,bARM SPIRAL SINGLE,dDOUBLE,dTRIPLE,aMOVEMENT-DIAGONAL AWAY SMALL
cMEDIUM,cLARGE,cLARGEST,bTOWARDS SMALL,cMEDIUM,cLARGE,cLARGEST,bBETWEEN AWAY SMALL,dMEDIUM,dLARGE
dLARGEST,cTOWARDS SMALL,dMEDIUM,dLARGE,dLARGEST,aMOVEMENT-FLOORPLANE SINGLE STRAIGHT SMALL,dMEDIUM
dLARGE,dLARGEST,cWRIST FLEX,bDOUBLE STRAIGHT,cWRIST FLEX,cALTERNATING,dWRIST FLEX,bCROSS
bTRIPLE STRAIGHT MOVEMENT,cWRIST FLEX,cALTERNATING MOVEMENT,dWRIST FLEX,bBEND,bCORNER SMALL
cMEDIUM,cLARGE,bCHECK,bBOX SMALL,cMEDIUM,cLARGE,bZIGZAG SMALL,cMEDIUM,cLARGE,bPEAKS SMALL,cMEDIUM
cLARGE,aTRAVEL-FLOORPLANE ROTATION-FLOORPLANE SINGLE,cDOUBLE,cALTERNATING
bROTATION-WALLPLANE SINGLE,cDOUBLE,cALTERNATING,bSHAKING,aMOVEMENT-WALLPLANE CURVE QUARTER SMALL
dMEDIUM,dLARGE,dLARGEST,cHALF-CIRCLE SMALL,dMEDIUM,dLARGE,dLARGEST,cTHREE-QUARTER CIRCLE SMALL
eMEDIUM,bHUMP SMALL,cMEDIUM,cLARGE,bLOOP SMALL,cMEDIUM,cLARGE,cSMALL DOUBLE
bWAVE CURVE DOUBLE SMALL,eMEDIUM,eLARGE,dTRIPLE SMALL,eMEDIUM,eLARGE,bCURVE THEN STRAIGHT
bCURVED CROSS SMALL,dMEDIUM,aROTATION-WALLPLANE SINGLE,bDOUBLE,bALTERNATE
aMOVEMENT-WALLPLANE SHAKING,bCURVE HITTING FRONT WALL,bHUMP HITTING FRONT WALL
bLOOP HITTING FRONT WALL,bWAVE HITTING FRONT WALL,aROTATION-WALLPLANE SINGLE HITTING FRONT WALL
bDOUBLE HITTING FRONT WALL,bALTERNATING HITTING FRONT WALL,aMOVEMENT-WALLPLANE CURVE HITTING CHEST
bHUMP HITTING CHEST,bLOOP HITTING CHEST,bWAVE HITTING CHEST
aROTATION-WALLPLANE SINGLE HITTING CHEST,bDOUBLE HITTING CHEST,bALTERNATING HITTING CHEST
aMOVEMENT-WALLPLANE WAVE DIAGONAL PATH SMALL,eMEDIUM,eLARGE
aMOVEMENT-FLOORPLANE CURVE HITTING CEILING SMALL,eLARGE,bHUMP HITTING CEILING SMALL DOUBLE
eLARGE DOUBLE,eSMALL TRIPLE,eLARGE TRIPLE,bLOOP HITTING CEILING SMALL SINGLE,eLARGE SINGLE
eSMALL DOUBLE,eLARGE DOUBLE,bWAVE HITTING CEILING SMALL,eLARGE
aROTATION-FLOORPLANE SINGLE HITTING CEILING,bDOUBLE HITTING CEILING,bALTERNATING HITTING CEILING
aMOVEMENT-FLOORPLANE CURVE HITTING FLOOR SMALL,eLARGE,bHUMP HITTING FLOOR SMALL DOUBLE
eLARGE DOUBLE,eTRIPLE SMALL TRIPLE,fLARGE TRIPLE,bLOOP HITTING FLOOR SMALL SINGLE,eLARGE SINGLE
eSMALL DOUBLE,eLARGE DOUBLE,bWAVE HITTING FLOOR SMALL,eLARGE
aROTATION-FLOORPLANE SINGLE HITTING FLOOR,bDOUBLE HITTING FLOOR,bALTERNATING HITTING FLOOR
aMOVEMENT-FLOORPLANE CURVE SMALL,cMEDIUM,cLARGE,cLARGEST,cCOMBINED,bHUMP SMALL,bLOOP SMALL
bWAVE SNAKE,cSMALL,cLARGE,aROTATION-FLOORPLANE SINGLE,bDOUBLE,bALTERNATING
aMOVEMENT-FLOORPLANE SHAKING PARALLEL,aMOVEMENT-WALLPLANE ARM CIRCLE SMALL SINGLE,dMEDIUM SINGLE
dSMALL DOUBLE,dMEDIUM DOUBLE,aMOVEMENT-FLOORPLANE ARM CIRCLE HITTING WALL SMALL SINGLE
fMEDIUM SINGLE,fLARGE SINGLE,fSMALL DOUBLE,fMEDIUM DOUBLE,fLARGE DOUBLE
aMOVEMENT-WALLPLANE WRIST CIRCLE FRONT SINGLE,eDOUBLE
aMOVEMENT-FLOORPLANE WRIST CIRCLE HITTING WALL SINGLE,fDOUBLE
aMOVEMENT-WALLPLANE FINGER CIRCLES SINGLE,dDOUBLE
aMOVEMENT-FLOORPLANE FINGER CIRCLES HITTING WALL SINGLE,fDOUBLE,aDYNAMIC ARROWHEAD SMALL,cLARGE
bFAST,bSLOW,bTENSE,bRELAXED,bSIMULTANEOUS,cALTERNATING,bEVERY OTHER TIME,bGRADUAL,aHEAD,bRIM
bMOVEMENT-WALLPLANE STRAIGHT,cTILT,bMOVEMENT-FLOORPLANE STRAIGHT,bMOVEMENT-WALLPLANE CURVE
bMOVEMENT-FLOORPLANE CURVE,bMOVEMENT CIRCLE,aFACE DIRECTION POSITION NOSE FORWARD TILTING
eUP OR DOWN,hTILTING,aEYEBROWS STRAIGHT UP,cNEUTRAL,cDOWN,aDREAMY EYEBROWS NEUTRAL DOWN
cDOWN NEUTRAL,cUP NEUTRAL,cNEUTRAL UP,aFOREHEAD NEUTRAL,bCONTACT,bWRINKLED,aEYES OPEN,bSQUEEZED
bCLOSED,aEYE BLINK SINGLE,cMULTIPLE,aEYES HALF OPEN,bWIDE OPEN,bHALF CLOSED,bWIDENING MOVEMENT
aEYE WINK,aEYELASHES UP,bDOWN,bFLUTTERING,aEYEGAZE-WALLPLANE STRAIGHT,cDOUBLE,cALTERNATING
aEYEGAZE-FLOORPLANE STRAIGHT,cDOUBLE,cALTERNATING,aEYEGAZE-WALLPLANE CURVED
aEYEGAZE-FLOORPLANE CURVED,aEYEGAZE-WALLPLANE CIRCLING,aCHEEKS PUFFED,bNEUTRAL,bSUCKED
aTENSE CHEEKS HIGH,cMIDDLE,cLOW,aEARS,aNOSE NEUTRAL,bCONTACT,bWRINKLES,bWIGGLES,aAIR BLOWING OUT
bSUCKING IN,bBLOW SMALL ROTATIONS,bSUCK SMALL ROTATIONS,aBREATH INHALE,bEXHALE
aMOUTH CLOSED NEUTRAL,cFORWARD,cCONTACT,bSMILE,cWRINKLED,cOPEN,bFROWN,cWRINKLED,cOPEN,bOPEN CIRCLE
cFORWARD,cWRINKLED,cOVAL,dWRINKLED,dYAWN,cRECTANGLE,dWRINKLED,dYAWN,bKISS,cFORWARD,cWRINKLED
bTENSE,cFORWARD,cSUCKED,aLIPS PRESSED TOGETHER,aLIP LOWER OVER UPPER,bUPPER OVER LOWER
aMOUTH CORNERS,bWRINKLES SINGLE,cDOUBLE,aTONGUE STICKING OUT FAR,bLICKING LIPS,bTIP BETWEEN LIPS
cTOUCHING INSIDE MOUTH,bINSIDE MOUTH RELAXED,bMOVES AGAINST CHEEK,bCENTRE STICKING OUT
cINSIDE MOUTH,aTEETH,bMOVEMENT,bON TONGUE,dMOVEMENT,cLIPS,dMOVEMENT,bBITE LIPS
aMOVEMENT-WALLPLANE JAW,aMOVEMENT-FLOORPLANE JAW,aNECK,aHAIR,aEXCITEMENT,aSHOULDER HIP SPINE
cPOSITIONS,aWALLPLANE SHOULDER HIP MOVE,aFLOORPLANE SHOULDER HIP MOVE,aSHOULDER TILTING FROM WAIST
aTORSO-WALLPLANE STRAIGHT STRETCH,bCURVED BEND,aTORSO-FLOORPLANE TWISTING
aUPPER BODY TILTING FROM HIP JOINTS,aLIMB COMBINATION,bLENGTH-1,bLENGTH-2,bLENGTH-3,bLENGTH-4
bLENGTH-5,bLENGTH-6,bLENGTH-7,aFINGER,aLOCATION-WALLPLANE SPACE,aLOCATION-FLOORPLANE SPACE
aLOCATION HEIGHT,bWIDTH,bDEPTH,bHEAD NECK,bTORSO,bLIMBS DIGITS,aCOMMA,aFULL STOP,aSEMICOLON,aCOLON
aPARENTHESIS,1DA9B:aFILL MODIFIER-2,bMODIFIER-3,bMODIFIER-4,bMODIFIER-5,bMODIFIER-6
1DAA1:aROTATION MODIFIER-2,bMODIFIER-3,bMODIFIER-4,bMODIFIER-5,bMODIFIER-6,bMODIFIER-7,bMODIFIER-8
bMODIFIER-9,bMODIFIER-10,bMODIFIER-11,bMODIFIER-12,bMODIFIER-13,bMODIFIER-14,bMODIFIER-15
bMODIFIER-16,1DF00:LATIN SMALL LETTER FENG DIGRAPH WITH TRILL,cREVERSED SCRIPT G
aLETTER SMALL CAPITAL TURNED G,aSMALL LETTER REVERSED K,aLETTER SMALL CAPITAL L WITH BELT
aSMALL LETTER LEZH WITH RETROFLEX HOOK,cTURNED Y WITH BELT,cREVERSED ENG
cTURNED R WITH LONG LEG AND RETROFLEX HOOK,cT WITH HOOK AND RETROFLEX HOOK
aLETTER RETROFLEX CLICK WITH RETROFLEX HOOK,aSMALL LETTER ESH WITH DOUBLE BAR,gAND CURL
cTURNED T WITH CURL,aLETTER INVERTED GLOTTAL STOP WITH CURL,bSTRETCHED C WITH CURL
bSMALL CAPITAL TURNED K,aSMALL LETTER L WITH FISHHOOK,cDEZH DIGRAPH WITH PALATAL HOOK
cL WITH BELT AND PALATAL HOOK,cENG WITH PALATAL HOOK,cTURNED R WITH PALATAL HOOK
cR WITH FISHHOOK AND PALATAL HOOK,cTESH DIGRAPH WITH PALATAL HOOK,cEZH WITH PALATAL HOOK
cDEZH DIGRAPH WITH RETROFLEX HOOK,cI WITH STROKE AND RETROFLEX HOOK,cO WITH RETROFLEX HOOK
cTESH DIGRAPH WITH RETROFLEX HOOK,cC WITH RETROFLEX HOOK,cS WITH CURL
1E000:COMBINING GLAGOLITIC LETTER AZU,cBUKY,cVEDE,cGLAGOLI,cDOBRO,cYESTU,cZHIVETE,1E008:cZEMLJA
cIZHE,cINITIAL IZHE,cI,cDJERVI,cKAKO,cLJUDIJE,cMYSLITE,cNASHI,cONU,cPOKOJI,cRITSI,cSLOVO,cTVRIDO
cUKU,cFRITU,cHERU,1E01B:cSHTA,cTSI,cCHRIVI,cSHA,cYERU,cYERI,cYATI,1E023:cYU,cSMALL YUS,1E026:cYO
cIOTATED SMALL YUS,cBIG YUS,cIOTATED BIG YUS,cFITA,1E100:NYIAKENG PUACHUE HMONG LETTER MA,dTSA
dNTA,dTA,dHA,dNA,dXA,dNKA,dCA,dLA,dSA,dZA,dNCA,dNTSA,dKA,dDA,dNYA,dNRA,dVA,dNTXA,dTXA,dFA,dRA,dQA
dYA,dNQA,dPA,dXYA,dNPA,dDLA,dNPLA,dHAH,dMLA,dPLA,dGA,dRRA,dA,dAA,dI,dU,dO,dOO,dE,dEE,dW
1E130:cTONE-B,cTONE-M,cTONE-J,cTONE-V,cTONE-S,cTONE-G,cTONE-D,cSIGN FOR PERSON,eTHING,eLOCATION
eANIMAL,eINVERTEBRATE,dXW XW,cSYLLABLE LENGTHENER,1E140:cDIGIT ZERO,dONE,dTWO,dTHREE,dFOUR,dFIVE
dSIX,dSEVEN,dEIGHT,dNINE,1E14E:cLOGOGRAM NYAJ,cCIRCLED CA,1E290:TOTO LETTER PA,bBA,bTA,bDA,bKA,bGA
bMA,bNA,bNGA,bSA,bCHA,bYA,bWA,bJA,bHA,bRA,bLA,bI,bBREATHY I,bIU,bBREATHY IU,bU,bE,bBREATHY E,bEO
bBREATHY EO,bO,bAE,bBREATHY AE,bA,aSIGN RISING TONE,1E2C0:WANCHO LETTER AA,bA,bBA,bCA,bDA,bGA,bYA
bPHA,bLA,bNA,bPA,bTA,bTHA,bFA,bSA,bSHA,bJA,bZA,bWA,bVA,bKA,bO,bAU,bRA,bMA,bKHA,bHA,bE,bI,bNGA,bU
bLLHA,bTSA,bTRA,bONG,bAANG,bANG,bING,bON,bEN,bAAN,bNYA,bUEN,bYIH,aTONE TUP,bTUPNI,bKOI,bKOINI
aDIGIT ZERO,bONE,bTWO,bTHREE,bFOUR,bFIVE,bSIX,bSEVEN,bEIGHT,bNINE,1E2FF:aNGUN SIGN
1E7E0:ETHIOPIC SYLLABLE HHYA,bHHYU,bHHYI,bHHYAA,bHHYEE,bHHYE,bHHYO,1E7E8:bGURAGE HHWA,bHHWI,bHHWEE
bHHWE,1E7ED:bGURAGE MWI,cMWEE,1E7F0:cQWI,cQWEE,cQWE,cBWI,cBWEE,cKWI,cKWEE,cKWE,cGWI,cGWEE,cGWE
cFWI,cFWEE,cPWI,cPWEE,1E800:MENDE KIKAKUI SYLLABLE M001 KI,cM002 KA,cM003 KU,cM065 KEE,cM095 KE
cM076 KOO,cM048 KO,cM179 KUA,cM004 WI,cM005 WA,cM006 WU,cM126 WEE,cM118 WE,cM114 WOO,cM045 WO
cM194 WUI,cM143 WEI,cM061 WVI,cM049 WVA,cM139 WVE,cM007 MIN,cM008 MAN,cM009 MUN,cM059 MEN
cM094 MON,cM154 MUAN,cM189 MUEN,cM010 BI,cM011 BA,cM012 BU,cM150 BEE,cM097 BE,cM103 BOO,cM138 BO
cM013 I,cM014 A,cM015 U,cM163 EE,cM100 E,cM165 OO,cM147 O,cM137 EI,cM131 IN,cM135 IN,cM195 AN
cM178 EN,cM019 SI,cM020 SA,cM021 SU,cM162 SEE,cM116 SE,cM136 SOO,cM079 SO,cM196 SIA,cM025 LI
cM026 LA,cM027 LU,cM084 LEE,cM073 LE,cM054 LOO,cM153 LO,cM110 LONG LE,cM016 DI,cM017 DA,cM018 DU
cM089 DEE,cM180 DOO,cM181 DO,cM022 TI,cM023 TA,cM024 TU,cM091 TEE,cM055 TE,cM104 TOO,cM069 TO
cM028 JI,cM029 JA,cM030 JU,cM157 JEE,cM113 JE,cM160 JOO,cM063 JO,cM175 LONG JO,cM031 YI,cM032 YA
cM033 YU,cM109 YEE,cM080 YE,cM141 YOO,cM121 YO,cM034 FI,cM035 FA,cM036 FU,cM078 FEE,cM075 FE
cM133 FOO,cM088 FO,cM197 FUA,cM101 FAN,cM037 NIN,cM038 NAN,cM039 NUN,cM117 NEN,cM169 NON,cM176 HI
cM041 HA,cM186 HU,cM040 HEE,cM096 HE,cM042 HOO,cM140 HO,cM083 HEEI,cM128 HOOU,cM053 HIN,cM130 HAN
cM087 HUN,cM052 HEN,cM193 HON,cM046 HUAN,cM090 NGGI,cM043 NGGA,cM082 NGGU,cM115 NGGEE,cM146 NGGE
cM156 NGGOO,cM120 NGGO,cM159 NGGAA,cM127 NGGUA,cM086 LONG NGGE,cM106 LONG NGGOO,cM183 LONG NGGO
cM155 GI,cM111 GA,cM168 GU,cM190 GEE,cM166 GUEI,cM167 GUAN,cM184 NGEN,cM057 NGON,cM177 NGUAN
cM068 PI,cM099 PA,cM050 PU,cM081 PEE,cM051 PE,cM102 POO,cM066 PO,cM145 MBI,cM062 MBA,cM122 MBU
cM047 MBEE,cM188 MBEE,cM072 MBE,cM172 MBOO,cM174 MBO,cM187 MBUU,cM161 LONG MBE,cM105 LONG MBOO
cM142 LONG MBO,cM132 KPI,cM092 KPA,cM074 KPU,cM044 KPEE,cM108 KPE,cM112 KPOO,cM158 KPO,cM124 GBI
cM056 GBA,cM148 GBU,cM093 GBEE,cM107 GBE,cM071 GBOO,cM070 GBO,cM171 RA,cM123 NDI,cM129 NDA
cM125 NDU,cM191 NDEE,cM119 NDE,cM067 NDOO,cM064 NDO,cM152 NJA,cM192 NJU,cM149 NJEE,cM134 NJOO
cM182 VI,cM185 VA,cM151 VU,cM173 VEE,cM085 VE,cM144 VOO,cM077 VO,cM164 NYIN,cM058 NYAN,cM170 NYUN
cM098 NYEN,cM060 NYON,1E8C7:bDIGIT ONE,cTWO,cTHREE,cFOUR,cFIVE,cSIX,cSEVEN,cEIGHT,cNINE
bCOMBINING NUMBER TEENS,dTENS,dHUNDREDS,dTHOUSANDS,dTEN THOUSANDS,dHUNDRED THOUSANDS,dMILLIONS
1E900:ADLAM CAPITAL LETTER ALIF,cDAALI,cLAAM,cMIIM,cBA,cSINNYIIYHE,cPE,cBHE,cRA,cE,cFA,cI,cO,cDHA
cYHE,cWAW,cNUN,cKAF,cYA,cU,cJIIM,cCHI,cHA,cQAAF,cGA,cNYA,cTU,cNHA,cVA,cKHA,cGBE,cZAL,cKPO,cSHA
aSMALL LETTER ALIF,cDAALI,cLAAM,cMIIM,cBA,cSINNYIIYHE,cPE,cBHE,cRA,cE,cFA,cI,cO,cDHA,cYHE,cWAW
cNUN,cKAF,cYA,cU,cJIIM,cCHI,cHA,cQAAF,cGA,cNYA,cTU,cNHA,cVA,cKHA,cGBE,cZAL,cKPO,cSHA
aALIF LENGTHENER,aVOWEL LENGTHENER,aGEMINATION MARK,aHAMZA,aCONSONANT MODIFIER
aGEMINATE CONSONANT MODIFIER,aNUKTA,aNASALIZATION MARK,1E950:aDIGIT ZERO,bONE,bTWO,bTHREE,bFOUR
bFIVE,bSIX,bSEVEN,bEIGHT,bNINE,1E95E:aINITIAL EXCLAMATION MARK,bQUESTION MARK
1EC71:INDIC SIYAQ NUMBER ONE,cTWO,cTHREE,cFOUR,cFIVE,cSIX,cSEVEN,cEIGHT,cNINE,cTEN,cTWENTY,cTHIRTY
cFORTY,cFIFTY,cSIXTY,cSEVENTY,cEIGHTY,cNINETY,cONE HUNDRED,cTWO HUNDRED,cTHREE HUNDRED
cFOUR HUNDRED,cFIVE HUNDRED,cSIX HUNDRED,cSEVEN HUNDRED,cEIGHT HUNDRED,cNINE HUNDRED,cONE THOUSAND
cTWO THOUSAND,cTHREE THOUSAND,cFOUR THOUSAND,cFIVE THOUSAND,cSIX THOUSAND,cSEVEN THOUSAND
cEIGHT THOUSAND,cNINE THOUSAND,cTEN THOUSAND,cTWENTY THOUSAND,cTHIRTY THOUSAND,cFORTY THOUSAND
cFIFTY THOUSAND,cSIXTY THOUSAND,cSEVENTY THOUSAND,cEIGHTY THOUSAND,cNINETY THOUSAND,cLAKH,cLAKHAN
bLAKH MARK,bNUMBER KAROR,cKARORAN,cPREFIXED ONE,dTWO,dTHREE,dFOUR,dFIVE,dSIX,dSEVEN,dEIGHT,dNINE
bPLACEHOLDER,bFRACTION ONE QUARTER,dHALF,cTHREE QUARTERS,bRUPEE MARK,bNUMBER ALTERNATE ONE,dTWO
dTEN THOUSAND,bALTERNATE LAKH MARK,1ED01:OTTOMAN SIYAQ NUMBER ONE,cTWO,cTHREE,cFOUR,cFIVE,cSIX
cSEVEN,cEIGHT,cNINE,cTEN,cTWENTY,cTHIRTY,cFORTY,cFIFTY,cSIXTY,cSEVENTY,cEIGHTY,cNINETY
cONE HUNDRED,cTWO HUNDRED,cTHREE HUNDRED,cFOUR HUNDRED,cFIVE HUNDRED,cSIX HUNDRED,cSEVEN HUNDRED
cEIGHT HUNDRED,cNINE HUNDRED,cONE THOUSAND,cTWO THOUSAND,cTHREE THOUSAND,cFOUR THOUSAND
cFIVE THOUSAND,cSIX THOUSAND,cSEVEN THOUSAND,cEIGHT THOUSAND,cNINE THOUSAND,cTEN THOUSAND
cTWENTY THOUSAND,cTHIRTY THOUSAND,cFORTY THOUSAND,cFIFTY THOUSAND,cSIXTY THOUSAND
cSEVENTY THOUSAND,cEIGHTY THOUSAND,cNINETY THOUSAND,bMARRATAN,bALTERNATE NUMBER TWO,dTHREE,dFOUR
dFIVE,dSIX,dSEVEN,dEIGHT,dNINE,dTEN,dFOUR HUNDRED,dSIX HUNDRED,dTWO THOUSAND,dTEN THOUSAND
bFRACTION ONE HALF,dSIXTH,1EE00:ARABIC MATHEMATICAL ALEF,bBEH,bJEEM,bDAL,1EE05:bWAW,bZAIN,bHAH
bTAH,bYEH,bKAF,bLAM,bMEEM,bNOON,bSEEN,bAIN,bFEH,bSAD,bQAF,bREH,bSHEEN,bTEH,bTHEH,bKHAH,bTHAL,bDAD
bZAH,bGHAIN,bDOTLESS BEH,cNOON,cFEH,cQAF,1EE21:bINITIAL BEH,cJEEM,1EE24:cHEH,1EE27:cHAH,1EE29:cYEH
cKAF,cLAM,cMEEM,cNOON,cSEEN,cAIN,cFEH,cSAD,cQAF,1EE34:cSHEEN,cTEH,cTHEH,cKHAH,1EE39:cDAD
1EE3B:cGHAIN,1EE42:bTAILED JEEM,1EE47:cHAH,1EE49:cYEH,1EE4B:cLAM,1EE4D:cNOON,cSEEN,cAIN,1EE51:cSAD
cQAF,1EE54:cSHEEN,1EE57:cKHAH,1EE59:cDAD,1EE5B:cGHAIN,1EE5D:cDOTLESS NOON,1EE5F:dQAF
1EE61:bSTRETCHED BEH,cJEEM,1EE64:cHEH,1EE67:cHAH,cTAH,cYEH,cKAF,1EE6C:cMEEM,cNOON,cSEEN,cAIN,cFEH
cSAD,cQAF,1EE74:cSHEEN,cTEH,cTHEH,cKHAH,1EE79:cDAD,cZAH,cGHAIN,cDOTLESS BEH,1EE7E:dFEH
1EE80:bLOOPED ALEF,cBEH,cJEEM,cDAL,cHEH,cWAW,cZAIN,cHAH,cTAH,cYEH,1EE8B:cLAM,cMEEM,cNOON,cSEEN
cAIN,cFEH,cSAD,cQAF,cREH,cSHEEN,cTEH,cTHEH,cKHAH,cTHAL,cDAD,cZAH,cGHAIN,1EEA1:bDOUBLE-STRUCK BEH
cJEEM,cDAL,1EEA5:cWAW,cZAIN,cHAH,cTAH,cYEH,1EEAB:cLAM,cMEEM,cNOON,cSEEN,cAIN,cFEH,cSAD,cQAF,cREH
cSHEEN,cTEH,cTHEH,cKHAH,cTHAL,cDAD,cZAH,cGHAIN,1EEF0:bOPERATOR MEEM WITH HAH WITH TATWEEL
cHAH WITH DAL"

end RasterAlgebra.Text.CharacterName
