/-!
# Names from Bamum Supplement to Znamenny notation

Unicode 14, U+16000 to U+1CFFF: Bamum, Mro, Miao, Tangut components, Kana supplements, Duployan
shorthand and Znamenny musical notation.
-/

namespace RasterAlgebra.Text.CharacterName

/-- Entries of a table of names. -/
def supplements : String := "
16800:BAMUM LETTER PHASE-A NGKUE MFON,cGBIEE FON,cPON MFON PIPAEMGBIEE,ePIPAEMBA,cNAA MFON
cSHUENSHUET,cTITA MFON,cNZA MFON,cSHINDA PA NJI,cPON PA NJI PIPAEMGBIEE,fPIPAEMBA,cMAEMBGBIEE
cTU MAEMBA,cNGANGU,cMAEMVEUX,cMANSUAE,cMVEUAENGAM,cSEUNYAM,cNTOQPEN,cKEUKEUTNDA,cNKINDI,cSUU
cNGKUENZEUM,cLAPAQ,cLET KUT,cNTAP MFAA,cMAEKEUP,cPASHAE,cGHEUAERAE,cPAMSHAE,cMON NGGEUAET
cNZUN MEUT,cU YUQ NAE,cGHEUAEGHEUAE,cNTAP NTAA,cSISA,cMGBASA,cMEUNJOMNDEUQ,cMOOMPUQ,cKAFA
cPA LEERAEWA,cNDA LEERAEWA,cPET,cMAEMKPEN,cNIKA,cPUP,cTUAEP,cLUAEP,cSONJAM,cTEUTEUWEN,cMAENYI,cKET
cNDAANGGEUAET,cKUOQ,cMOOMEUT,cSHUM,cLOMMAE,cFIRI,cROM,cKPOQ,cSOQ,cMAP PIEET,cSHIRAE,cNTAP
cSHOQ NSHUT YUM,cNYIT MONGKEUAEQ,cPAARAE,cNKAARAE,cUNKNOWN,cNGGEN,cMAESI,cNJAM,cMBANYI,cNYET
cTEUAEN,cSOT,cPAAM,cNSHIEE,cMAEM,cNYI,cKAQ,cNSHA,cVEE,cLU,cNEN,cNAQ,cMBAQ,bPHASE-B NSHUET
cTU MAEMGBIEE,cSIEE,cSET TU,cLOM NTEUM,cMBA MAELEE,cKIEEM,cYEURAE,cMBAARAE,cKAM,cPEESHI
cYAFU LEERAEWA,cLAM NSHUT NYAM,cNTIEE SHEUOQ,cNDU NJAA,cGHEUGHEUAEM,cPIT,cTU NSIEE,cSHET NJAQ
cSHEUAEQTU,cMFON TEUAEQ,cMBIT MBAAKET,cNYI NTEUM,cKEUPUQ,cGHEUGHEN,cKEUYEUX,cLAANAE,cPARUM,cVEUM
cNGKINDI MVOP,cNGGEU MBU,cWUAET,cSAKEUAE,cTAAM,cMEUQ,cNGGUOQ,dLARGE,cMFIYAQ,cSUE,cMBEURI,cMONTIEEN
cNYAEMAE,cPUNGAAM,cMEUT NGGEET,cFEUX,cMBUOQ,cFEE,cKEUAEM,cMA NJEUAENA,dNJUQA,cLET,cNGGAAM,cNSEN
cMA,cKIQ,cNGOM,bPHASE-C NGKUE MAEMBA,cNZA,cYUM,cWANGKUOQ,cNGGEN,cNDEUAEREE,cNGKAQ,cGHARAE
cMBEEKEET,cGBAYI,cNYIR MKPARAQ MEUN,cNTU MBIT,cMBEUM,cPIRIEEN,cNDOMBU,cMBAA CABBAGE-TREE
cKEUSHEUAEP,cGHAP,cKEUKAQ,cYU MUOMAE,cNZEUM,cMBUE,cNSEUAEN,cMBIT,cYEUQ,cKPARAQ,cKAA,cSEUX,cNDIDA
cTAASHAE,cNJUEQ,cTITA YUE,cSUAET,cNGGUAEN NYAM,cVEUX,cNANSANAQ,cMA KEUAERI,cNTAA,cNGGUON,cLAP
cMBIRIEEN,cMGBASAQ,cNTEUNGBA,cTEUTEUX,cNGGUM,cFUE,cNDEUT,cNSA,cNSHAQ,cBUNG,cVEUAEPEN,cMBERAE,cRU
cNJAEM,cLAM,cTITUAEP,cNSUOT NGOM,cNJEEEE,cKET,cNGGU,cMAESI,cMBUAEM,cLU,cKUT,cNJAM,cNGOM,cWUP
cNGGUEET,cNSOM,cNTEN,cKUOP NKAARAE,cNSUN,cNDAM,cMA NSIEE,cYAA,cNDAP,cSHUEQ,cSETFON,cMBI,cMAEMBA
cMBANYI,cKEUSEUX,cMBEUX,cKEUM,cMBAA PICKET,cYUWOQ,cNJEUX,cMIEE,cMUAE,cSHIQ,cKEN LAW,dFATIGUE,cNGAQ
cNAQ,cLIQ,cPIN,cPEN,cTET,bPHASE-D MBUO,cWAP,cNJI,cMFON,cNJIEE,cLIEE,cNJEUT,cNSHEE,cNGGAAMAE,cNYAM
cWUAEN,cNGKUN,cSHEE,cNGKAP,cKEUAETMEUN,cTEUT,cSHEUAE,cNJAP,cSUE,cKET,cYAEMMAE,cKUOM,cSAP,cMFEUT
cNDEUX,cMALEERI,cMEUT,cSEUAEQ,cYEN,cNJEUAEM,cKEUOT MBUAE,cNGKEURI,cTU,cGHAA,cNGKYEE,cFEUFEUAET
cNDEE,cMGBOFUM,cLEUAEP,cNDON,cMONI,cMGBEUN,cPUUT,cMGBIEE,cMFO,cLUM,cNSIEEP,cMBAA,cKWAET,cNYET
cTEUAEN,cSOT,cYUWOQ,cKEUM,cRAEM,cTEEEE,cNGKEUAEQ,cMFEUAE,cNSIEET,cKEUP,cPIP,cPEUTAE,cNYUE,cLET
cNGGAAM,cMFIEE,cNGGWAEN,cYUOM,cPAP,cYUOP,cNDAM,cNTEUM,cSUAE,cKUN,cNGGEUX,cNGKIEE,cTUOT,cMEUN,cKUQ
cNSUM,cTEUN,cMAENJET,cNGGAP,cLEUM,cNGGUOM,cNSHUT,cNJUEQ,cGHEUAE,cKU,cREN OLD,cTAE,cTOQ,cNYI,cRII
cLEEEE,cMEEEE,cM,cSUU,cMU,cSHII,cSHEUX,cKYEE,cNU,cSHU,cNTEE,cPEE,cNI,cSHOQ,cPUQ,cMVOP,cLOQ
cREN MUCH,cTI,cNTUU,cMBAA SEVEN,cSAQ,cFAA,bPHASE-E NDAP,cTOON,cMBEUM,cLAP,cVOM,cLOON,cPAA,cSOM
cRAQ,cNSHUOP,cNDUN,cPUAE,cTAM,cNGKA,cKPEUX,cWUO,cSEE,cNGGEUAET,cPAAM,cTOO,cKUOP,cLOM,cNSHIEE,cNGOP
cMAEM,cNGKEUX,cNGOQ,cNSHUE,cRIMGBA,cNJEUX,cPEEM,cSAA,cNGGURAE,cMGBA,cGHEUX,cNGKEUAEM,cNJAEMLI,cMAP
cLOOT,cNGGEEEE,cNDIQ,cTAEN NTEUM,cSET,cPUM,cNDAA SOFTNESS,cNGGUAESHAE NYAM,cYIEE,cGHEUN,cTUAE
cYEUAE,cPO,cTUMAE,cKEUAE,cSUAEN,cTEUAEQ,cVEUAE,cWEUX,cLAAM,cPU,cTAAQ,cGHAAMAE,cNGEUREUT,cSHEUAEQ
cMGBEN,cMBEE,cNZAQ,cNKOM,cGBET,cTUM,cKUET,cYAP,cNYI CLEAVER,cYIT,cMFEUQ,cNDIAQ,cPIEEQ,cYUEQ
cLEUAEM,cFUE,cGBEUX,cNGKUP,cKET,cMAE,cNGKAAMI,cGHET,cFA,cNTUM,cPEUT,cYEUM,cNGGEUAE,cNYI BETWEEN
cNZUQ,cPOON,cMIEE,cFUET,cNAE,cMUAE,cGHEUAE,cFU I,cMVI,cPUAQ,cNGKUM,cKUT,cPIET,cNTAP,cYEUAET,cNGGUP
cPA PEOPLE,cFU CALL,cFOM,cNJEE,cA,cTOQ,cO,cI,cLAQ,cPA PLURAL,cTAA,cTAQ,cNDAA MY HOUSE,cSHIQ,cYEUX
cNGUAE,cYUAEN,cYOQ SWIMMING,dCOVER,cYUQ,cYUN,cKEUX,cPEUX,cNJEE EPOCH,cPUE,cWUE,cFEE,cVEE,cLU,cMI
cREUX,cRAE,cNGUAET,cNGA,cSHO,cSHOQ,cFU REMEDY,cNA,cPI,cLOQ,cKO,cMEN,cMA,cMAQ,cTEU,cKI,cMON,cTEN
cFAQ,cGHOM,bPHASE-F KA,cU,cKU,cEE,cREE,cTAE,cNYI,cLA,cRII,cRIEE,cMEEEE,cTAA,cNDAA,cNJAEM,cM,cSUU
cSHII,cSI,cSEUX,cKYEE,cKET,cNUAE,cNU,cNJUAE,cYOQ,cSHU,cYA,cNSHA,cPEUX,cNTEE,cWUE,cPEE,cRU,cNI
cREUX,cKEN,cNGKWAEN,cNGGA,cSHO,cPUAE,cFOM,cWA,cLI,cLOQ,cKO,cMBEN,cREN,cMA,cMO,cMBAA,cTET,cKPA
cSAMBA,cVUEQ,16A40:MRO LETTER TA,bNGI,bYO,bMIM,bBA,bDA,bA,bPHI,bKHAI,bHAO,bDAI,bCHU,bKEAAE,bOL
bMAEM,bNIN,bPA,bOO,bO,bRO,bSHI,bTHEA,bEA,bWA,bE,bKO,bLAN,bLA,bHAI,bRI,bTEK,16A60:aDIGIT ZERO,bONE
bTWO,bTHREE,bFOUR,bFIVE,bSIX,bSEVEN,bEIGHT,bNINE,16A6E:aDANDA,aDOUBLE DANDA,TANGSA LETTER OZ,bOC
bOQ,bOX,bAZ,bAC,bAQ,bAX,bVZ,bVC,bVQ,bVX,bEZ,bEC,bEQ,bEX,bIZ,bIC,bIQ,bIX,bUZ,bUC,bUQ,bUX,bAWZ,bAWC
bAWQ,bAWX,bUIZ,bUIC,bUIQ,bUIX,bFINAL NG,bLONG UEX,bSHORT UEZ,cAWX,bUEC,bUEZ,bUEQ,bUEX,bUIUZ,bUIUC
bUIUQ,bUIUX,bMZ,bMC,bMQ,bMX,bKA,bKHA,bGA,bNGA,bSA,bYA,bWA,bPA,bNYA,bPHA,bBA,bMA,bNA,bHA,bLA,bHTA
bTA,bDA,bRA,bNHA,bSHA,bCA,bTSA,bGHA,bHTTA,bTHA,bXA,bFA,bDHA,bCHA,bZA,16AC0:aDIGIT ZERO,bONE,bTWO
bTHREE,bFOUR,bFIVE,bSIX,bSEVEN,bEIGHT,bNINE,16AD0:BASSA VAH LETTER ENNI,cKA,cSE,cFA,cMBE,cYIE,cGAH
cDHII,cKPAH,cJO,cHWAH,cWA,cZO,cGBU,cDO,cCE,cUWU,cTO,cBA,cVU,cYEIN,cPA,cWADDA,cA,cO,cOO,cU,cEE,cE
cI,16AF0:bCOMBINING HIGH TONE,cLOW TONE,cMID TONE,cLOW-MID TONE,cHIGH-LOW TONE,bFULL STOP
16B00:PAHAWH HMONG VOWEL KEEB,cKEEV,cKIB,cKIV,cKAUB,cKAUV,cKUB,cKUV,cKEB,cKEV,cKAIB,cKAIV,cKOOB
cKOOV,cKAWB,cKAWV,cKUAB,cKUAV,cKOB,cKOV,cKIAB,cKIAV,cKAB,cKAV,cKWB,cKWV,cKAAB,cKAAV,bCONSONANT VAU
cNTSAU,cLAU,cHAU,cNLAU,cRAU,cNKAU,cQHAU,cYAU,cHLAU,cMAU,cCHAU,cNCHAU,cHNAU,cPLHAU,cNTHAU,cNAU,cAU
cXAU,cCAU,bMARK CIM TUB,dSO,dKES,dKHAV,dSUAM,dHOM,dTAUM,bSIGN VOS THOM,dTSHAB CEEB,cCIM CHEEM
cVOS THIAB,dFEEM,cXYEEM NTXIV,dRHO,dTOV,dFAIB,cVOS SEEV,cMEEJ SUAB,cVOS NRUA,cIB YAM,cXAUS
cCIM TSOV ROG,16B50:bDIGIT ZERO,cONE,cTWO,cTHREE,cFOUR,cFIVE,cSIX,cSEVEN,cEIGHT,cNINE
16B5B:bNUMBER TENS,cHUNDREDS,cTEN THOUSANDS,cMILLIONS,cHUNDRED MILLIONS,cTEN BILLIONS,cTRILLIONS
16B63:bSIGN VOS LUB,cXYOO,cHLI,cTHIRD-STAGE HLI,cZWJ THAJ,cHNUB,cNQIG,cXIAB,cNTUJ,cAV,cTXHEEJ CEEV
cMEEJ TSEEB,cTAU,cLOS,cMUS,cCIM HAIS LUS NTOG NTOG,dCUAM TSHOOJ,dTXWV,eCHWV,dPUB DAWB,dNRES TOS
16B7D:bCLAN SIGN TSHEEJ,dYEEG,dLIS,dLAUJ,dXYOOJ,dKOO,dHAWJ,dMUAS,dTHOJ,dTSAB,dPHAB,dKHAB,dHAM,dVAJ
dFAJ,dYAJ,dTSWB,dKWM,dVWJ,16E40:MEDEFAIDRIN CAPITAL LETTER M,cS,cV,cW,cATIU,cZ,cKP,cP,cT,cG,cF,cI
cK,cA,cJ,cE,cB,cC,cU,cYU,cL,cQ,cHP,cNY,cX,cD,cOE,cN,cR,cO,cAI,cY,aSMALL LETTER M,cS,cV,cW,cATIU,cZ
cKP,cP,cT,cG,cF,cI,cK,cA,cJ,cE,cB,cC,cU,cYU,cL,cQ,cHP,cNY,cX,cD,cOE,cN,cR,cO,cAI,cY,aDIGIT ZERO
bONE,bTWO,bTHREE,bFOUR,bFIVE,bSIX,bSEVEN,bEIGHT,bNINE,aNUMBER TEN,bELEVEN,bTWELVE,bTHIRTEEN
bFOURTEEN,bFIFTEEN,bSIXTEEN,bSEVENTEEN,bEIGHTEEN,bNINETEEN,aDIGIT ONE ALTERNATE FORM
bTWO ALTERNATE FORM,bTHREE ALTERNATE FORM,aCOMMA,aFULL STOP,aSYMBOL AIVA,aEXCLAMATION OH
16F00:MIAO LETTER PA,bBA,bYI PA,bPLA,bMA,bMHA,bARCHAIC MA,bFA,bVA,bVFA,bTA,bDA,bYI TTA,cTA,bTTA
bDDA,bNA,bNHA,bYI NNA,bARCHAIC NA,bNNA,bNNHA,bLA,bLYA,bLHA,bLHYA,bTLHA,bDLHA,bTLHYA,bDLHYA,bKA,bGA
bYI KA,bQA,bQGA,bNGA,bNGHA,bARCHAIC NGA,bHA,bXA,bGHA,bGHHA,bTSSA,bDZZA,bNYA,bNYHA,bTSHA,bDZHA
bYI TSHA,cDZHA,bREFORMED TSHA,bSHA,bSSA,bZHA,bZSHA,bTSA,bDZA,bYI TSA,bSA,bZA,bZSA,bZZA,bZZSA
bARCHAIC ZZA,bZZYA,bZZSYA,bWA,bAH,bHHA,bBRI,bSYI,bDZYI,bTE,bTSE,bRTE
16F4F:aSIGN CONSONANT MODIFIER BAR,aLETTER NASALIZATION,aSIGN ASPIRATION,bREFORMED VOICING
cASPIRATION,aVOWEL SIGN A,cAA,cAHH,cAN,cANG,cO,cOO,cWO,cW,cE,cEN,cENG,cOEY,cI,cIA,cIAN,cIANG,cIO
cIE,cII,cIU,cING,cU,cUA,cUAN,cUANG,cUU,cUEI,cUNG,cY,cYI,cAE,cAEE,cERR,cROUNDED ERR,cER,cROUNDED ER
cAI,cEI,cAU,cOU,cN,cNG,cUOG,cYUI,cOG,cOER,cVW,cIG,cEA,cIONG,cUI,16F8F:aTONE RIGHT,bTOP RIGHT
bABOVE,bBELOW,aLETTER TONE-2,bTONE-3,bTONE-4,bTONE-5,bTONE-6,bTONE-7,bTONE-8,bREFORMED TONE-1
cTONE-2,cTONE-4,cTONE-5,cTONE-6,cTONE-8,16FE0:TANGUT ITERATION MARK,NUSHU ITERATION MARK
OLD CHINESE HOOK MARK,bITERATION MARK,KHITAN SMALL SCRIPT FILLER
16FF0:VIETNAMESE ALTERNATE READING MARK CA,dNHAY,18800:TANGUT COMPONENT-001,aCOMPONENT-002
aCOMPONENT-003,aCOMPONENT-004,aCOMPONENT-005,aCOMPONENT-006,aCOMPONENT-007,aCOMPONENT-008
aCOMPONENT-009,aCOMPONENT-010,aCOMPONENT-011,aCOMPONENT-012,aCOMPONENT-013,aCOMPONENT-014
aCOMPONENT-015,aCOMPONENT-016,aCOMPONENT-017,aCOMPONENT-018,aCOMPONENT-019,aCOMPONENT-020
aCOMPONENT-021,aCOMPONENT-022,aCOMPONENT-023,aCOMPONENT-024,aCOMPONENT-025,aCOMPONENT-026
aCOMPONENT-027,aCOMPONENT-028,aCOMPONENT-029,aCOMPONENT-030,aCOMPONENT-031,aCOMPONENT-032
aCOMPONENT-033,aCOMPONENT-034,aCOMPONENT-035,aCOMPONENT-036,aCOMPONENT-037,aCOMPONENT-038
aCOMPONENT-039,aCOMPONENT-040,aCOMPONENT-041,aCOMPONENT-042,aCOMPONENT-043,aCOMPONENT-044
aCOMPONENT-045,aCOMPONENT-046,aCOMPONENT-047,aCOMPONENT-048,aCOMPONENT-049,aCOMPONENT-050
aCOMPONENT-051,aCOMPONENT-052,aCOMPONENT-053,aCOMPONENT-054,aCOMPONENT-055,aCOMPONENT-056
aCOMPONENT-057,aCOMPONENT-058,aCOMPONENT-059,aCOMPONENT-060,aCOMPONENT-061,aCOMPONENT-062
aCOMPONENT-063,aCOMPONENT-064,aCOMPONENT-065,aCOMPONENT-066,aCOMPONENT-067,aCOMPONENT-068
aCOMPONENT-069,aCOMPONENT-070,aCOMPONENT-071,aCOMPONENT-072,aCOMPONENT-073,aCOMPONENT-074
aCOMPONENT-075,aCOMPONENT-076,aCOMPONENT-077,aCOMPONENT-078,aCOMPONENT-079,aCOMPONENT-080
aCOMPONENT-081,aCOMPONENT-082,aCOMPONENT-083,aCOMPONENT-084,aCOMPONENT-085,aCOMPONENT-086
aCOMPONENT-087,aCOMPONENT-088,aCOMPONENT-089,aCOMPONENT-090,aCOMPONENT-091,aCOMPONENT-092
aCOMPONENT-093,aCOMPONENT-094,aCOMPONENT-095,aCOMPONENT-096,aCOMPONENT-097,aCOMPONENT-098
aCOMPONENT-099,aCOMPONENT-100,aCOMPONENT-101,aCOMPONENT-102,aCOMPONENT-103,aCOMPONENT-104
aCOMPONENT-105,aCOMPONENT-106,aCOMPONENT-107,aCOMPONENT-108,aCOMPONENT-109,aCOMPONENT-110
aCOMPONENT-111,aCOMPONENT-112,aCOMPONENT-113,aCOMPONENT-114,aCOMPONENT-115,aCOMPONENT-116
aCOMPONENT-117,aCOMPONENT-118,aCOMPONENT-119,aCOMPONENT-120,aCOMPONENT-121,aCOMPONENT-122
aCOMPONENT-123,aCOMPONENT-124,aCOMPONENT-125,aCOMPONENT-126,aCOMPONENT-127,aCOMPONENT-128
aCOMPONENT-129,aCOMPONENT-130,aCOMPONENT-131,aCOMPONENT-132,aCOMPONENT-133,aCOMPONENT-134
aCOMPONENT-135,aCOMPONENT-136,aCOMPONENT-137,aCOMPONENT-138,aCOMPONENT-139,aCOMPONENT-140
aCOMPONENT-141,aCOMPONENT-142,aCOMPONENT-143,aCOMPONENT-144,aCOMPONENT-145,aCOMPONENT-146
aCOMPONENT-147,aCOMPONENT-148,aCOMPONENT-149,aCOMPONENT-150,aCOMPONENT-151,aCOMPONENT-152
aCOMPONENT-153,aCOMPONENT-154,aCOMPONENT-155,aCOMPONENT-156,aCOMPONENT-157,aCOMPONENT-158
aCOMPONENT-159,aCOMPONENT-160,aCOMPONENT-161,aCOMPONENT-162,aCOMPONENT-163,aCOMPONENT-164
aCOMPONENT-165,aCOMPONENT-166,aCOMPONENT-167,aCOMPONENT-168,aCOMPONENT-169,aCOMPONENT-170
aCOMPONENT-171,aCOMPONENT-172,aCOMPONENT-173,aCOMPONENT-174,aCOMPONENT-175,aCOMPONENT-176
aCOMPONENT-177,aCOMPONENT-178,aCOMPONENT-179,aCOMPONENT-180,aCOMPONENT-181,aCOMPONENT-182
aCOMPONENT-183,aCOMPONENT-184,aCOMPONENT-185,aCOMPONENT-186,aCOMPONENT-187,aCOMPONENT-188
aCOMPONENT-189,aCOMPONENT-190,aCOMPONENT-191,aCOMPONENT-192,aCOMPONENT-193,aCOMPONENT-194
aCOMPONENT-195,aCOMPONENT-196,aCOMPONENT-197,aCOMPONENT-198,aCOMPONENT-199,aCOMPONENT-200
aCOMPONENT-201,aCOMPONENT-202,aCOMPONENT-203,aCOMPONENT-204,aCOMPONENT-205,aCOMPONENT-206
aCOMPONENT-207,aCOMPONENT-208,aCOMPONENT-209,aCOMPONENT-210,aCOMPONENT-211,aCOMPONENT-212
aCOMPONENT-213,aCOMPONENT-214,aCOMPONENT-215,aCOMPONENT-216,aCOMPONENT-217,aCOMPONENT-218
aCOMPONENT-219,aCOMPONENT-220,aCOMPONENT-221,aCOMPONENT-222,aCOMPONENT-223,aCOMPONENT-224
aCOMPONENT-225,aCOMPONENT-226,aCOMPONENT-227,aCOMPONENT-228,aCOMPONENT-229,aCOMPONENT-230
aCOMPONENT-231,aCOMPONENT-232,aCOMPONENT-233,aCOMPONENT-234,aCOMPONENT-235,aCOMPONENT-236
aCOMPONENT-237,aCOMPONENT-238,aCOMPONENT-239,aCOMPONENT-240,aCOMPONENT-241,aCOMPONENT-242
aCOMPONENT-243,aCOMPONENT-244,aCOMPONENT-245,aCOMPONENT-246,aCOMPONENT-247,aCOMPONENT-248
aCOMPONENT-249,aCOMPONENT-250,aCOMPONENT-251,aCOMPONENT-252,aCOMPONENT-253,aCOMPONENT-254
aCOMPONENT-255,aCOMPONENT-256,aCOMPONENT-257,aCOMPONENT-258,aCOMPONENT-259,aCOMPONENT-260
aCOMPONENT-261,aCOMPONENT-262,aCOMPONENT-263,aCOMPONENT-264,aCOMPONENT-265,aCOMPONENT-266
aCOMPONENT-267,aCOMPONENT-268,aCOMPONENT-269,aCOMPONENT-270,aCOMPONENT-271,aCOMPONENT-272
aCOMPONENT-273,aCOMPONENT-274,aCOMPONENT-275,aCOMPONENT-276,aCOMPONENT-277,aCOMPONENT-278
aCOMPONENT-279,aCOMPONENT-280,aCOMPONENT-281,aCOMPONENT-282,aCOMPONENT-283,aCOMPONENT-284
aCOMPONENT-285,aCOMPONENT-286,aCOMPONENT-287,aCOMPONENT-288,aCOMPONENT-289,aCOMPONENT-290
aCOMPONENT-291,aCOMPONENT-292,aCOMPONENT-293,aCOMPONENT-294,aCOMPONENT-295,aCOMPONENT-296
aCOMPONENT-297,aCOMPONENT-298,aCOMPONENT-299,aCOMPONENT-300,aCOMPONENT-301,aCOMPONENT-302
aCOMPONENT-303,aCOMPONENT-304,aCOMPONENT-305,aCOMPONENT-306,aCOMPONENT-307,aCOMPONENT-308
aCOMPONENT-309,aCOMPONENT-310,aCOMPONENT-311,aCOMPONENT-312,aCOMPONENT-313,aCOMPONENT-314
aCOMPONENT-315,aCOMPONENT-316,aCOMPONENT-317,aCOMPONENT-318,aCOMPONENT-319,aCOMPONENT-320
aCOMPONENT-321,aCOMPONENT-322,aCOMPONENT-323,aCOMPONENT-324,aCOMPONENT-325,aCOMPONENT-326
aCOMPONENT-327,aCOMPONENT-328,aCOMPONENT-329,aCOMPONENT-330,aCOMPONENT-331,aCOMPONENT-332
aCOMPONENT-333,aCOMPONENT-334,aCOMPONENT-335,aCOMPONENT-336,aCOMPONENT-337,aCOMPONENT-338
aCOMPONENT-339,aCOMPONENT-340,aCOMPONENT-341,aCOMPONENT-342,aCOMPONENT-343,aCOMPONENT-344
aCOMPONENT-345,aCOMPONENT-346,aCOMPONENT-347,aCOMPONENT-348,aCOMPONENT-349,aCOMPONENT-350
aCOMPONENT-351,aCOMPONENT-352,aCOMPONENT-353,aCOMPONENT-354,aCOMPONENT-355,aCOMPONENT-356
aCOMPONENT-357,aCOMPONENT-358,aCOMPONENT-359,aCOMPONENT-360,aCOMPONENT-361,aCOMPONENT-362
aCOMPONENT-363,aCOMPONENT-364,aCOMPONENT-365,aCOMPONENT-366,aCOMPONENT-367,aCOMPONENT-368
aCOMPONENT-369,aCOMPONENT-370,aCOMPONENT-371,aCOMPONENT-372,aCOMPONENT-373,aCOMPONENT-374
aCOMPONENT-375,aCOMPONENT-376,aCOMPONENT-377,aCOMPONENT-378,aCOMPONENT-379,aCOMPONENT-380
aCOMPONENT-381,aCOMPONENT-382,aCOMPONENT-383,aCOMPONENT-384,aCOMPONENT-385,aCOMPONENT-386
aCOMPONENT-387,aCOMPONENT-388,aCOMPONENT-389,aCOMPONENT-390,aCOMPONENT-391,aCOMPONENT-392
aCOMPONENT-393,aCOMPONENT-394,aCOMPONENT-395,aCOMPONENT-396,aCOMPONENT-397,aCOMPONENT-398
aCOMPONENT-399,aCOMPONENT-400,aCOMPONENT-401,aCOMPONENT-402,aCOMPONENT-403,aCOMPONENT-404
aCOMPONENT-405,aCOMPONENT-406,aCOMPONENT-407,aCOMPONENT-408,aCOMPONENT-409,aCOMPONENT-410
aCOMPONENT-411,aCOMPONENT-412,aCOMPONENT-413,aCOMPONENT-414,aCOMPONENT-415,aCOMPONENT-416
aCOMPONENT-417,aCOMPONENT-418,aCOMPONENT-419,aCOMPONENT-420,aCOMPONENT-421,aCOMPONENT-422
aCOMPONENT-423,aCOMPONENT-424,aCOMPONENT-425,aCOMPONENT-426,aCOMPONENT-427,aCOMPONENT-428
aCOMPONENT-429,aCOMPONENT-430,aCOMPONENT-431,aCOMPONENT-432,aCOMPONENT-433,aCOMPONENT-434
aCOMPONENT-435,aCOMPONENT-436,aCOMPONENT-437,aCOMPONENT-438,aCOMPONENT-439,aCOMPONENT-440
aCOMPONENT-441,aCOMPONENT-442,aCOMPONENT-443,aCOMPONENT-444,aCOMPONENT-445,aCOMPONENT-446
aCOMPONENT-447,aCOMPONENT-448,aCOMPONENT-449,aCOMPONENT-450,aCOMPONENT-451,aCOMPONENT-452
aCOMPONENT-453,aCOMPONENT-454,aCOMPONENT-455,aCOMPONENT-456,aCOMPONENT-457,aCOMPONENT-458
aCOMPONENT-459,aCOMPONENT-460,aCOMPONENT-461,aCOMPONENT-462,aCOMPONENT-463,aCOMPONENT-464
aCOMPONENT-465,aCOMPONENT-466,aCOMPONENT-467,aCOMPONENT-468,aCOMPONENT-469,aCOMPONENT-470
aCOMPONENT-471,aCOMPONENT-472,aCOMPONENT-473,aCOMPONENT-474,aCOMPONENT-475,aCOMPONENT-476
aCOMPONENT-477,aCOMPONENT-478,aCOMPONENT-479,aCOMPONENT-480,aCOMPONENT-481,aCOMPONENT-482
aCOMPONENT-483,aCOMPONENT-484,aCOMPONENT-485,aCOMPONENT-486,aCOMPONENT-487,aCOMPONENT-488
aCOMPONENT-489,aCOMPONENT-490,aCOMPONENT-491,aCOMPONENT-492,aCOMPONENT-493,aCOMPONENT-494
aCOMPONENT-495,aCOMPONENT-496,aCOMPONENT-497,aCOMPONENT-498,aCOMPONENT-499,aCOMPONENT-500
aCOMPONENT-501,aCOMPONENT-502,aCOMPONENT-503,aCOMPONENT-504,aCOMPONENT-505,aCOMPONENT-506
aCOMPONENT-507,aCOMPONENT-508,aCOMPONENT-509,aCOMPONENT-510,aCOMPONENT-511,aCOMPONENT-512
aCOMPONENT-513,aCOMPONENT-514,aCOMPONENT-515,aCOMPONENT-516,aCOMPONENT-517,aCOMPONENT-518
aCOMPONENT-519,aCOMPONENT-520,aCOMPONENT-521,aCOMPONENT-522,aCOMPONENT-523,aCOMPONENT-524
aCOMPONENT-525,aCOMPONENT-526,aCOMPONENT-527,aCOMPONENT-528,aCOMPONENT-529,aCOMPONENT-530
aCOMPONENT-531,aCOMPONENT-532,aCOMPONENT-533,aCOMPONENT-534,aCOMPONENT-535,aCOMPONENT-536
aCOMPONENT-537,aCOMPONENT-538,aCOMPONENT-539,aCOMPONENT-540,aCOMPONENT-541,aCOMPONENT-542
aCOMPONENT-543,aCOMPONENT-544,aCOMPONENT-545,aCOMPONENT-546,aCOMPONENT-547,aCOMPONENT-548
aCOMPONENT-549,aCOMPONENT-550,aCOMPONENT-551,aCOMPONENT-552,aCOMPONENT-553,aCOMPONENT-554
aCOMPONENT-555,aCOMPONENT-556,aCOMPONENT-557,aCOMPONENT-558,aCOMPONENT-559,aCOMPONENT-560
aCOMPONENT-561,aCOMPONENT-562,aCOMPONENT-563,aCOMPONENT-564,aCOMPONENT-565,aCOMPONENT-566
aCOMPONENT-567,aCOMPONENT-568,aCOMPONENT-569,aCOMPONENT-570,aCOMPONENT-571,aCOMPONENT-572
aCOMPONENT-573,aCOMPONENT-574,aCOMPONENT-575,aCOMPONENT-576,aCOMPONENT-577,aCOMPONENT-578
aCOMPONENT-579,aCOMPONENT-580,aCOMPONENT-581,aCOMPONENT-582,aCOMPONENT-583,aCOMPONENT-584
aCOMPONENT-585,aCOMPONENT-586,aCOMPONENT-587,aCOMPONENT-588,aCOMPONENT-589,aCOMPONENT-590
aCOMPONENT-591,aCOMPONENT-592,aCOMPONENT-593,aCOMPONENT-594,aCOMPONENT-595,aCOMPONENT-596
aCOMPONENT-597,aCOMPONENT-598,aCOMPONENT-599,aCOMPONENT-600,aCOMPONENT-601,aCOMPONENT-602
aCOMPONENT-603,aCOMPONENT-604,aCOMPONENT-605,aCOMPONENT-606,aCOMPONENT-607,aCOMPONENT-608
aCOMPONENT-609,aCOMPONENT-610,aCOMPONENT-611,aCOMPONENT-612,aCOMPONENT-613,aCOMPONENT-614
aCOMPONENT-615,aCOMPONENT-616,aCOMPONENT-617,aCOMPONENT-618,aCOMPONENT-619,aCOMPONENT-620
aCOMPONENT-621,aCOMPONENT-622,aCOMPONENT-623,aCOMPONENT-624,aCOMPONENT-625,aCOMPONENT-626
aCOMPONENT-627,aCOMPONENT-628,aCOMPONENT-629,aCOMPONENT-630,aCOMPONENT-631,aCOMPONENT-632
aCOMPONENT-633,aCOMPONENT-634,aCOMPONENT-635,aCOMPONENT-636,aCOMPONENT-637,aCOMPONENT-638
aCOMPONENT-639,aCOMPONENT-640,aCOMPONENT-641,aCOMPONENT-642,aCOMPONENT-643,aCOMPONENT-644
aCOMPONENT-645,aCOMPONENT-646,aCOMPONENT-647,aCOMPONENT-648,aCOMPONENT-649,aCOMPONENT-650
aCOMPONENT-651,aCOMPONENT-652,aCOMPONENT-653,aCOMPONENT-654,aCOMPONENT-655,aCOMPONENT-656
aCOMPONENT-657,aCOMPONENT-658,aCOMPONENT-659,aCOMPONENT-660,aCOMPONENT-661,aCOMPONENT-662
aCOMPONENT-663,aCOMPONENT-664,aCOMPONENT-665,aCOMPONENT-666,aCOMPONENT-667,aCOMPONENT-668
aCOMPONENT-669,aCOMPONENT-670,aCOMPONENT-671,aCOMPONENT-672,aCOMPONENT-673,aCOMPONENT-674
aCOMPONENT-675,aCOMPONENT-676,aCOMPONENT-677,aCOMPONENT-678,aCOMPONENT-679,aCOMPONENT-680
aCOMPONENT-681,aCOMPONENT-682,aCOMPONENT-683,aCOMPONENT-684,aCOMPONENT-685,aCOMPONENT-686
aCOMPONENT-687,aCOMPONENT-688,aCOMPONENT-689,aCOMPONENT-690,aCOMPONENT-691,aCOMPONENT-692
aCOMPONENT-693,aCOMPONENT-694,aCOMPONENT-695,aCOMPONENT-696,aCOMPONENT-697,aCOMPONENT-698
aCOMPONENT-699,aCOMPONENT-700,aCOMPONENT-701,aCOMPONENT-702,aCOMPONENT-703,aCOMPONENT-704
aCOMPONENT-705,aCOMPONENT-706,aCOMPONENT-707,aCOMPONENT-708,aCOMPONENT-709,aCOMPONENT-710
aCOMPONENT-711,aCOMPONENT-712,aCOMPONENT-713,aCOMPONENT-714,aCOMPONENT-715,aCOMPONENT-716
aCOMPONENT-717,aCOMPONENT-718,aCOMPONENT-719,aCOMPONENT-720,aCOMPONENT-721,aCOMPONENT-722
aCOMPONENT-723,aCOMPONENT-724,aCOMPONENT-725,aCOMPONENT-726,aCOMPONENT-727,aCOMPONENT-728
aCOMPONENT-729,aCOMPONENT-730,aCOMPONENT-731,aCOMPONENT-732,aCOMPONENT-733,aCOMPONENT-734
aCOMPONENT-735,aCOMPONENT-736,aCOMPONENT-737,aCOMPONENT-738,aCOMPONENT-739,aCOMPONENT-740
aCOMPONENT-741,aCOMPONENT-742,aCOMPONENT-743,aCOMPONENT-744,aCOMPONENT-745,aCOMPONENT-746
aCOMPONENT-747,aCOMPONENT-748,aCOMPONENT-749,aCOMPONENT-750,aCOMPONENT-751,aCOMPONENT-752
aCOMPONENT-753,aCOMPONENT-754,aCOMPONENT-755,aCOMPONENT-756,aCOMPONENT-757,aCOMPONENT-758
aCOMPONENT-759,aCOMPONENT-760,aCOMPONENT-761,aCOMPONENT-762,aCOMPONENT-763,aCOMPONENT-764
aCOMPONENT-765,aCOMPONENT-766,aCOMPONENT-767,aCOMPONENT-768,1AFF0:KATAKANA LETTER MINNAN TONE-2
cTONE-3,cTONE-4,cTONE-5,1AFF5:cTONE-7,cTONE-8,cNASALIZED TONE-1,dTONE-2,dTONE-3,dTONE-4,dTONE-5
1AFFD:dTONE-7,dTONE-8,1B000:bARCHAIC E,HIRAGANA LETTER ARCHAIC YE,HENTAIGANA LETTER A-1,bA-2,bA-3
bA-WO,bI-1,bI-2,bI-3,bI-4,bU-1,bU-2,bU-3,bU-4,bU-5,bE-2,bE-3,bE-4,bE-5,bE-6,bO-1,bO-2,bO-3,bKA-1
bKA-2,bKA-3,bKA-4,bKA-5,bKA-6,bKA-7,bKA-8,bKA-9,bKA-10,bKA-11,bKA-KE,bKI-1,bKI-2,bKI-3,bKI-4,bKI-5
bKI-6,bKI-7,bKI-8,bKU-1,bKU-2,bKU-3,bKU-4,bKU-5,bKU-6,bKU-7,bKE-1,bKE-2,bKE-3,bKE-4,bKE-5,bKE-6
bKO-1,bKO-2,bKO-3,bKO-KI,bSA-1,bSA-2,bSA-3,bSA-4,bSA-5,bSA-6,bSA-7,bSA-8,bSI-1,bSI-2,bSI-3,bSI-4
bSI-5,bSI-6,bSU-1,bSU-2,bSU-3,bSU-4,bSU-5,bSU-6,bSU-7,bSU-8,bSE-1,bSE-2,bSE-3,bSE-4,bSE-5,bSO-1
bSO-2,bSO-3,bSO-4,bSO-5,bSO-6,bSO-7,bTA-1,bTA-2,bTA-3,bTA-4,bTI-1,bTI-2,bTI-3,bTI-4,bTI-5,bTI-6
bTI-7,bTU-1,bTU-2,bTU-3,bTU-4,bTU-TO,bTE-1,bTE-2,bTE-3,bTE-4,bTE-5,bTE-6,bTE-7,bTE-8,bTE-9,bTO-1
bTO-2,bTO-3,bTO-4,bTO-5,bTO-6,bTO-RA,bNA-1,bNA-2,bNA-3,bNA-4,bNA-5,bNA-6,bNA-7,bNA-8,bNA-9,bNI-1
bNI-2,bNI-3,bNI-4,bNI-5,bNI-6,bNI-7,bNI-TE,bNU-1,bNU-2,bNU-3,bNE-1,bNE-2,bNE-3,bNE-4,bNE-5,bNE-6
bNE-KO,bNO-1,bNO-2,bNO-3,bNO-4,bNO-5,bHA-1,bHA-2,bHA-3,bHA-4,bHA-5,bHA-6,bHA-7,bHA-8,bHA-9,bHA-10
bHA-11,bHI-1,bHI-2,bHI-3,bHI-4,bHI-5,bHI-6,bHI-7,bHU-1,bHU-2,bHU-3,bHE-1,bHE-2,bHE-3,bHE-4,bHE-5
bHE-6,bHE-7,bHO-1,bHO-2,bHO-3,bHO-4,bHO-5,bHO-6,bHO-7,bHO-8,bMA-1,bMA-2,bMA-3,bMA-4,bMA-5,bMA-6
bMA-7,bMI-1,bMI-2,bMI-3,bMI-4,bMI-5,bMI-6,bMI-7,bMU-1,bMU-2,bMU-3,bMU-4,bME-1,bME-2,bME-MA,bMO-1
bMO-2,bMO-3,bMO-4,bMO-5,bMO-6,bYA-1,bYA-2,bYA-3,bYA-4,bYA-5,bYA-YO,bYU-1,bYU-2,bYU-3,bYU-4,bYO-1
bYO-2,bYO-3,bYO-4,bYO-5,bYO-6,bRA-1,bRA-2,bRA-3,bRA-4,bRI-1,bRI-2,bRI-3,bRI-4,bRI-5,bRI-6,bRI-7
bRU-1,bRU-2,bRU-3,bRU-4,bRU-5,bRU-6,bRE-1,bRE-2,bRE-3,bRE-4,bRO-1,bRO-2,bRO-3,bRO-4,bRO-5,bRO-6
bWA-1,bWA-2,bWA-3,bWA-4,bWA-5,bWI-1,bWI-2,bWI-3,bWI-4,bWI-5,bWE-1,bWE-2,bWE-3,bWE-4,bWO-1,bWO-2
bWO-3,bWO-4,bWO-5,bWO-6,bWO-7,bN-MU-MO-1,bN-MU-MO-2,HIRAGANA LETTER ARCHAIC WU
KATAKANA LETTER ARCHAIC YI,cYE,cWU,1B150:HIRAGANA LETTER SMALL WI,cWE,cWO
1B164:KATAKANA LETTER SMALL WI,cWE,cWO,cN,1BC00:DUPLOYAN LETTER H,bX,bP,bT,bF,bK,bL,bB,bD,bV,bG,bR
bP N,bD S,bF N,bK M,bR S,bTH,bSLOAN DH,bDH,bKK,bSLOAN J,bHL,bLH,bRH,bM,bN,bJ,bS,bM N,bN M,bJ M
bS J,bM WITH DOT,bN WITH DOT,bJ WITH DOT,dDOTS INSIDE AND ABOVE,bS WITH DOT,eBELOW,bM S,bN S,bJ S
bS S,bM N S,bN M S,bJ M S,bS J S,bJ S WITH DOT,cN,dS,bS T,dR,cP,dR,bT S,cR S,bW,bWH,bW R,bS N,cM
bK R S,bG R S,bS K,dR,bA,bSLOAN OW,bOA,bO,bAOU,bI,bE,bIE,bSHORT I,bUI,bEE,bSLOAN EH,bROMANIAN I
bSLOAN EE,bLONG I,bYE,bU,bEU,bXW,bU N,bLONG U,bROMANIAN U,bUH,bSLOAN U,bOOH,bOW,bOU,bWA,bWO,bWI
bWEI,bWOW,bNASAL U,cO,cI,cA,bPERNIN AN,cAM,bSLOAN EN,cAN,cON,bVOCALIC M
1BC70:aAFFIX LEFT HORIZONTAL SECANT,bMID HORIZONTAL SECANT,bRIGHT HORIZONTAL SECANT
bLOW VERTICAL SECANT,bMID VERTICAL SECANT,bHIGH VERTICAL SECANT,bATTACHED SECANT
cLEFT-TO-RIGHT SECANT,cTANGENT,cTAIL,cE HOOK,cI HOOK,cTANGENT HOOK,1BC80:bHIGH ACUTE,cTIGHT ACUTE
cGRAVE,cLONG GRAVE,cDOT,cCIRCLE,cLINE,cWAVE,cVERTICAL,1BC90:bLOW ACUTE,cTIGHT ACUTE,cGRAVE
cLONG GRAVE,cDOT,cCIRCLE,cLINE,cWAVE,cVERTICAL,cARROW,1BC9C:aSIGN O WITH CROSS
aTHICK LETTER SELECTOR,aDOUBLE MARK,aPUNCTUATION CHINOOK FULL STOP,SHORTHAND FORMAT LETTER OVERLAP
bCONTINUING OVERLAP,bDOWN STEP,bUP STEP
1CF00:ZNAMENNY COMBINING MARK GORAZDO NIZKO S KRYZHEM ON LEFT,cNIZKO S KRYZHEM ON LEFT
cTSATA ON LEFT,cGORAZDO NIZKO ON LEFT,cNIZKO ON LEFT,cSREDNE ON LEFT,cMALO POVYSHE ON LEFT
cPOVYSHE ON LEFT,cVYSOKO ON LEFT,cMALO POVYSHE S KHOKHLOM ON LEFT,cPOVYSHE S KHOKHLOM ON LEFT
cVYSOKO S KHOKHLOM ON LEFT,cGORAZDO NIZKO S KRYZHEM ON RIGHT,cNIZKO S KRYZHEM ON RIGHT
cTSATA ON RIGHT,cGORAZDO NIZKO ON RIGHT,cNIZKO ON RIGHT,cSREDNE ON RIGHT,cMALO POVYSHE ON RIGHT
cPOVYSHE ON RIGHT,cVYSOKO ON RIGHT,cMALO POVYSHE S KHOKHLOM ON RIGHT,cPOVYSHE S KHOKHLOM ON RIGHT
cVYSOKO S KHOKHLOM ON RIGHT,cTSATA S KRYZHEM,cMALO POVYSHE S KRYZHEM,cSTRANNO MALO POVYSHE
cPOVYSHE S KRYZHEM,dSTRANNO,cVYSOKO S KRYZHEM,cMALO POVYSHE STRANNO,cGORAZDO VYSOKO,cZELO,cON
cRAVNO,cTIKHAYA,cBORZAYA,cUDARKA,cPODVERTKA,cLOMKA,cKUPNAYA,cKACHKA,cZEVOK,cSKOBA,cRAZSEKA
cKRYZH ON LEFT,1CF30:bTONAL RANGE MARK MRACHNO,eSVETLO,eTRESVETLO,bMARK ZADERZHKA
cDEMESTVENNY ZADERZHKA,cOTSECHKA,cPODCHASHIE,dWITH VERTICAL STROKE,cCHASHKA,dPOLNAYA,cOBLACHKO
cSOROCHYA NOZHKA,cTOCHKA,cDVOETOCHIE,bATTACHING VERTICAL OMET,bMARK CURVED OMET,cKRYZH
bLOWER TONAL RANGE INDICATOR,aPRIZNAK MODIFIER LEVEL-2,cLEVEL-3,cDIRECTION FLIP,cKRYZH,cROG
1CF50:aNEUME KRYUK,cTIKHY,bPARAKLIT,bDVA V CHELNU,bKLYUCH,bZANOZHEK,bSTOPITSA,cS OCHKOM,bPEREVODKA
cNEPOSTOYANNAYA,bSTOPITSA WITH SOROCHYA NOZHKA,bCHELYUSTKA,bPALKA,bZAPYATAYA,bGOLUBCHIK BORZY
cTIKHY,cMRACHNY,cSVETLY,cTRESVETLY,bVRAKHIYA PROSTAYA,cMRACHNAYA,cSVETLAYA,cTRESVETLAYA
cKLYUCHEVAYA PROSTAYA,dMRACHNAYA,dSVETLAYA,dTRESVETLAYA,bDOUBLE ZAPYATAYA,bREVERSED CHELYUSTKA
bDERBITSA,bKHAMILO,bCHASHKA,bPODCHASHIE,bSKAMEYTSA MRACHNAYA,cSVETLAYA,cTRESVETLAYA,cTIKHAYA
bDEMESTVENNY KLYUCH,bSKAMEYTSA KLYUCHEVAYA SVETLAYA,cKLYUCHENEPOSTOYANNAYA,cKLYUCHEVAYA TIKHAYA
cDVOECHELNAYA PROSTAYA,dSVETLAYA,dNEPOSTOYANNAYA,dKLYUCHEVAYA,bSLOZHITIE,cS ZAPYATOY,cZAKRYTOE
cS KRYZHEM,bKRYZH,bROG,bFITA,bKOBYLA,bZMEYTSA,bSTATYA,cS ZAPYATOY,dKRYZHEM,dZAPYATOY I KRYZHEM
dKRYZHEM I ZAPYATOY,cZAKRYTAYA,dS ZAPYATOY,cS ROGOM,dDVUMYA ZAPYATYMI,dZAPYATOY I PODCHASHIEM
bPOLKULIZMY,bSTATYA NEPOSTOYANNAYA,bSTRELA PROSTAYA,cMRACHNOTIKHAYA,cKRYZHEVAYA,cPOLUPOVODNAYA
cPOVODNAYA,cNEPOSTOYANNAYA,cKLYUCHEPOVODNAYA,cKLYUCHENEPOSTOYANNAYA,cTIKHAYA PUTNAYA,cDVOECHELNAYA
cDVOECHELNOKRYZHEVAYA,cDVOECHELNOPOVODNAYA,cDVOECHELNAYA KLYUCHEVAYA
cDVOECHELNOPOVODNAYA KLYUCHEVAYA,cGROMNAYA WITH SINGLE ZAPYATAYA
cGROMOPOVODNAYA WITH SINGLE ZAPYATAYA,cGROMNAYA,cGROMOPOVODNAYA,dWITH DOUBLE ZAPYATAYA
cGROMOKRYZHEVAYA,dPOVODNAYA,bMECHIK,cPOVODNY,cKLYUCHEVOY,cKLYUCHEPOVODNY,cKLYUCHENEPOSTOYANNY
bSTRELA TRYASOGLASNAYA,cTRYASOPOVODNAYA,cTRYASOSTRELNAYA,bOSOKA,cSVETLAYA,cTRESVETLAYA
cKRYUKOVAYA SVETLAYA,cKLYUCHEVAYA SVETLAYA,dNEPOSTOYANNAYA,bSTRELA KRYUKOVAYA,dPOVODNAYA
dGROMNAYA WITH SINGLE ZAPYATAYA,dGROMOPOVODNAYA WITH SINGLE ZAPYATAYA,dGROMNAYA,dGROMOPOVODNAYA
eWITH DOUBLE ZAPYATAYA,dGROMOKRYZHEVAYA,ePOVODNAYA,dTRYASKA,bKUFISMA,bOBLAKO,bDUDA,bNEMKA,bPAUK"

end RasterAlgebra.Text.CharacterName
