/-!
# Names from Myanmar to Greek Extended

Unicode 14, U+1000 to U+1FFF: Myanmar, Georgian, Ethiopic, Canadian syllables and their neighbours.
-/

namespace RasterAlgebra.Text.CharacterName

/-- Entries of a table of names. -/
def syllabaries : String := "
1000:MYANMAR LETTER KA,bKHA,bGA,bGHA,bNGA,bCA,bCHA,bJA,bJHA,bNYA,bNNYA,bTTA,bTTHA,bDDA,bDDHA,bNNA
bTA,bTHA,bDA,bDHA,bNA,bPA,bPHA,bBA,bBHA,bMA,bYA,bRA,bLA,bWA,bSA,bHA,bLLA,bA,bSHAN A,bI,bII,bU,bUU
bE,bMON E,bO,bAU,aVOWEL SIGN TALL AA,cAA,cI,cII,cU,cUU,cE,cAI,cMON II,dO,cE ABOVE,aSIGN ANUSVARA
bDOT BELOW,bVISARGA,bVIRAMA,bASAT,aCONSONANT SIGN MEDIAL YA,dRA,dWA,dHA,aLETTER GREAT SA
aDIGIT ZERO,bONE,bTWO,bTHREE,bFOUR,bFIVE,bSIX,bSEVEN,bEIGHT,bNINE,aSIGN LITTLE SECTION,bSECTION
aSYMBOL LOCATIVE,bCOMPLETED,bAFOREMENTIONED,bGENITIVE,aLETTER SHA,bSSA,bVOCALIC R,cRR,cL,cLL
aVOWEL SIGN VOCALIC R,dRR,dL,dLL,aLETTER MON NGA,cJHA,cBBA,cBBE,aCONSONANT SIGN MON MEDIAL NA,eMA
eLA,aLETTER SGAW KAREN SHA,aVOWEL SIGN SGAW KAREN EU,aTONE MARK SGAW KAREN HATHI,eKE PHO
aLETTER WESTERN PWO KAREN THA,ePWA,aVOWEL SIGN WESTERN PWO KAREN EU,fUE
aSIGN WESTERN PWO KAREN TONE-1,eTONE-2,eTONE-3,eTONE-4,eTONE-5,aLETTER EASTERN PWO KAREN NNA,eYWA
eGHWA,aVOWEL SIGN GEBA KAREN I,cKAYAH OE,dU,dEE,aLETTER SHAN KA,cKHA,cGA,cCA,cZA,cNYA,cDA,cNA,cPHA
cFA,cBA,cTHA,cHA,aCONSONANT SIGN SHAN MEDIAL WA,aVOWEL SIGN SHAN AA,dE,eABOVE,dFINAL Y
aSIGN SHAN TONE-2,cTONE-3,cTONE-5,cTONE-6,cCOUNCIL TONE-2,dTONE-3,dEMPHATIC TONE
aLETTER RUMAI PALAUNG FA,aSIGN RUMAI PALAUNG TONE-5,aSHAN DIGIT ZERO,cONE,cTWO,cTHREE,cFOUR,cFIVE
cSIX,cSEVEN,cEIGHT,cNINE,aSIGN KHAMTI TONE-1,cTONE-3,aVOWEL SIGN AITON A,dAI,aSYMBOL SHAN ONE
cEXCLAMATION,GEORGIAN CAPITAL LETTER AN,cBAN,cGAN,cDON,cEN,cVIN,cZEN,cTAN,cIN,cKAN,cLAS,cMAN,cNAR
cON,cPAR,cZHAR,cRAE,cSAN,cTAR,cUN,cPHAR,cKHAR,cGHAN,cQAR,cSHIN,cCHIN,cCAN,cJIL,cCIL,cCHAR,cXAN
cJHAN,cHAE,cHE,cHIE,cWE,cHAR,cHOE,10C7:cYN,10CD:cAEN,10D0:aLETTER AN,bBAN,bGAN,bDON,bEN,bVIN,bZEN
bTAN,bIN,bKAN,bLAS,bMAN,bNAR,bON,bPAR,bZHAR,bRAE,bSAN,bTAR,bUN,bPHAR,bKHAR,bGHAN,bQAR,bSHIN,bCHIN
bCAN,bJIL,bCIL,bCHAR,bXAN,bJHAN,bHAE,bHE,bHIE,bWE,bHAR,bHOE,bFI,bYN,bELIFI,bTURNED GAN,bAIN
aPARAGRAPH SEPARATOR,MODIFIER LETTER GEORGIAN NAR,GEORGIAN LETTER AEN,bHARD SIGN,bLABIAL SIGN
HANGUL CHOSEONG KIYEOK,bSSANGKIYEOK,bNIEUN,bTIKEUT,bSSANGTIKEUT,bRIEUL,bMIEUM,bPIEUP,bSSANGPIEUP
bSIOS,bSSANGSIOS,bIEUNG,bCIEUC,bSSANGCIEUC,bCHIEUCH,bKHIEUKH,bTHIEUTH,bPHIEUPH,bHIEUH
bNIEUN-KIYEOK,bSSANGNIEUN,bNIEUN-TIKEUT,bNIEUN-PIEUP,bTIKEUT-KIYEOK,bRIEUL-NIEUN,bSSANGRIEUL
bRIEUL-HIEUH,bKAPYEOUNRIEUL,bMIEUM-PIEUP,bKAPYEOUNMIEUM,bPIEUP-KIYEOK,bPIEUP-NIEUN,bPIEUP-TIKEUT
bPIEUP-SIOS,bPIEUP-SIOS-KIYEOK,bPIEUP-SIOS-TIKEUT,bPIEUP-SIOS-PIEUP,bPIEUP-SSANGSIOS
bPIEUP-SIOS-CIEUC,bPIEUP-CIEUC,bPIEUP-CHIEUCH,bPIEUP-THIEUTH,bPIEUP-PHIEUPH,bKAPYEOUNPIEUP
bKAPYEOUNSSANGPIEUP,bSIOS-KIYEOK,bSIOS-NIEUN,bSIOS-TIKEUT,bSIOS-RIEUL,bSIOS-MIEUM,bSIOS-PIEUP
bSIOS-PIEUP-KIYEOK,bSIOS-SSANGSIOS,bSIOS-IEUNG,bSIOS-CIEUC,bSIOS-CHIEUCH,bSIOS-KHIEUKH
bSIOS-THIEUTH,bSIOS-PHIEUPH,bSIOS-HIEUH,bCHITUEUMSIOS,bCHITUEUMSSANGSIOS,bCEONGCHIEUMSIOS
bCEONGCHIEUMSSANGSIOS,bPANSIOS,bIEUNG-KIYEOK,bIEUNG-TIKEUT,bIEUNG-MIEUM,bIEUNG-PIEUP,bIEUNG-SIOS
bIEUNG-PANSIOS,bSSANGIEUNG,bIEUNG-CIEUC,bIEUNG-CHIEUCH,bIEUNG-THIEUTH,bIEUNG-PHIEUPH,bYESIEUNG
bCIEUC-IEUNG,bCHITUEUMCIEUC,bCHITUEUMSSANGCIEUC,bCEONGCHIEUMCIEUC,bCEONGCHIEUMSSANGCIEUC
bCHIEUCH-KHIEUKH,bCHIEUCH-HIEUH,bCHITUEUMCHIEUCH,bCEONGCHIEUMCHIEUCH,bPHIEUPH-PIEUP
bKAPYEOUNPHIEUPH,bSSANGHIEUH,bYEORINHIEUH,bKIYEOK-TIKEUT,bNIEUN-SIOS,bNIEUN-CIEUC,bNIEUN-HIEUH
bTIKEUT-RIEUL,bFILLER,aJUNGSEONG FILLER,bA,bAE,bYA,bYAE,bEO,bE,bYEO,bYE,bO,bWA,bWAE,bOE,bYO,bU
bWEO,bWE,bWI,bYU,bEU,bYI,bI,bA-O,bA-U,bYA-O,bYA-YO,bEO-O,bEO-U,bEO-EU,bYEO-O,bYEO-U,bO-EO,bO-E
bO-YE,bO-O,bO-U,bYO-YA,bYO-YAE,bYO-YEO,bYO-O,bYO-I,bU-A,bU-AE,bU-EO-EU,bU-YE,bU-U,bYU-A,bYU-EO
bYU-E,bYU-YEO,bYU-YE,bYU-U,bYU-I,bEU-U,bEU-EU,bYI-U,bI-A,bI-YA,bI-O,bI-U,bI-EU,bI-ARAEA,bARAEA
bARAEA-EO,bARAEA-U,bARAEA-I,bSSANGARAEA,bA-EU,bYA-U,bYEO-YA,bO-YA,bO-YAE,aJONGSEONG KIYEOK
bSSANGKIYEOK,bKIYEOK-SIOS,bNIEUN,bNIEUN-CIEUC,bNIEUN-HIEUH,bTIKEUT,bRIEUL,bRIEUL-KIYEOK
bRIEUL-MIEUM,bRIEUL-PIEUP,bRIEUL-SIOS,bRIEUL-THIEUTH,bRIEUL-PHIEUPH,bRIEUL-HIEUH,bMIEUM,bPIEUP
bPIEUP-SIOS,bSIOS,bSSANGSIOS,bIEUNG,bCIEUC,bCHIEUCH,bKHIEUKH,bTHIEUTH,bPHIEUPH,bHIEUH
bKIYEOK-RIEUL,bKIYEOK-SIOS-KIYEOK,bNIEUN-KIYEOK,bNIEUN-TIKEUT,bNIEUN-SIOS,bNIEUN-PANSIOS
bNIEUN-THIEUTH,bTIKEUT-KIYEOK,bTIKEUT-RIEUL,bRIEUL-KIYEOK-SIOS,bRIEUL-NIEUN,bRIEUL-TIKEUT
bRIEUL-TIKEUT-HIEUH,bSSANGRIEUL,bRIEUL-MIEUM-KIYEOK,bRIEUL-MIEUM-SIOS,bRIEUL-PIEUP-SIOS
bRIEUL-PIEUP-HIEUH,bRIEUL-KAPYEOUNPIEUP,bRIEUL-SSANGSIOS,bRIEUL-PANSIOS,bRIEUL-KHIEUKH
bRIEUL-YEORINHIEUH,bMIEUM-KIYEOK,bMIEUM-RIEUL,bMIEUM-PIEUP,bMIEUM-SIOS,bMIEUM-SSANGSIOS
bMIEUM-PANSIOS,bMIEUM-CHIEUCH,bMIEUM-HIEUH,bKAPYEOUNMIEUM,bPIEUP-RIEUL,bPIEUP-PHIEUPH,bPIEUP-HIEUH
bKAPYEOUNPIEUP,bSIOS-KIYEOK,bSIOS-TIKEUT,bSIOS-RIEUL,bSIOS-PIEUP,bPANSIOS,bIEUNG-KIYEOK
bIEUNG-SSANGKIYEOK,bSSANGIEUNG,bIEUNG-KHIEUKH,bYESIEUNG,bYESIEUNG-SIOS,bYESIEUNG-PANSIOS
bPHIEUPH-PIEUP,bKAPYEOUNPHIEUPH,bHIEUH-NIEUN,bHIEUH-RIEUL,bHIEUH-MIEUM,bHIEUH-PIEUP,bYEORINHIEUH
bKIYEOK-NIEUN,bKIYEOK-PIEUP,bKIYEOK-CHIEUCH,bKIYEOK-KHIEUKH,bKIYEOK-HIEUH,bSSANGNIEUN
ETHIOPIC SYLLABLE HA,bHU,bHI,bHAA,bHEE,bHE,bHO,bHOA,bLA,bLU,bLI,bLAA,bLEE,bLE,bLO,bLWA,bHHA,bHHU
bHHI,bHHAA,bHHEE,bHHE,bHHO,bHHWA,bMA,bMU,bMI,bMAA,bMEE,bME,bMO,bMWA,bSZA,bSZU,bSZI,bSZAA,bSZEE
bSZE,bSZO,bSZWA,bRA,bRU,bRI,bRAA,bREE,bRE,bRO,bRWA,bSA,bSU,bSI,bSAA,bSEE,bSE,bSO,bSWA,bSHA,bSHU
bSHI,bSHAA,bSHEE,bSHE,bSHO,bSHWA,bQA,bQU,bQI,bQAA,bQEE,bQE,bQO,bQOA,bQWA,124A:bQWI,bQWAA,bQWEE
bQWE,1250:bQHA,bQHU,bQHI,bQHAA,bQHEE,bQHE,bQHO,1258:bQHWA,125A:bQHWI,bQHWAA,bQHWEE,bQHWE,1260:bBA
bBU,bBI,bBAA,bBEE,bBE,bBO,bBWA,bVA,bVU,bVI,bVAA,bVEE,bVE,bVO,bVWA,bTA,bTU,bTI,bTAA,bTEE,bTE,bTO
bTWA,bCA,bCU,bCI,bCAA,bCEE,bCE,bCO,bCWA,bXA,bXU,bXI,bXAA,bXEE,bXE,bXO,bXOA,bXWA,128A:bXWI,bXWAA
bXWEE,bXWE,1290:bNA,bNU,bNI,bNAA,bNEE,bNE,bNO,bNWA,bNYA,bNYU,bNYI,bNYAA,bNYEE,bNYE,bNYO,bNYWA
bGLOTTAL A,cU,cI,cAA,cEE,cE,cO,cWA,bKA,bKU,bKI,bKAA,bKEE,bKE,bKO,bKOA,bKWA,12B2:bKWI,bKWAA,bKWEE
bKWE,12B8:bKXA,bKXU,bKXI,bKXAA,bKXEE,bKXE,bKXO,12C0:bKXWA,12C2:bKXWI,bKXWAA,bKXWEE,bKXWE,12C8:bWA
bWU,bWI,bWAA,bWEE,bWE,bWO,bWOA,bPHARYNGEAL A,cU,cI,cAA,cEE,cE,cO,12D8:bZA,bZU,bZI,bZAA,bZEE,bZE
bZO,bZWA,bZHA,bZHU,bZHI,bZHAA,bZHEE,bZHE,bZHO,bZHWA,bYA,bYU,bYI,bYAA,bYEE,bYE,bYO,bYOA,bDA,bDU,bDI
bDAA,bDEE,bDE,bDO,bDWA,bDDA,bDDU,bDDI,bDDAA,bDDEE,bDDE,bDDO,bDDWA,bJA,bJU,bJI,bJAA,bJEE,bJE,bJO
bJWA,bGA,bGU,bGI,bGAA,bGEE,bGE,bGO,bGOA,bGWA,1312:bGWI,bGWAA,bGWEE,bGWE,1318:bGGA,bGGU,bGGI,bGGAA
bGGEE,bGGE,bGGO,bGGWAA,bTHA,bTHU,bTHI,bTHAA,bTHEE,bTHE,bTHO,bTHWA,bCHA,bCHU,bCHI,bCHAA,bCHEE,bCHE
bCHO,bCHWA,bPHA,bPHU,bPHI,bPHAA,bPHEE,bPHE,bPHO,bPHWA,bTSA,bTSU,bTSI,bTSAA,bTSEE,bTSE,bTSO,bTSWA
bTZA,bTZU,bTZI,bTZAA,bTZEE,bTZE,bTZO,bTZOA,bFA,bFU,bFI,bFAA,bFEE,bFE,bFO,bFWA,bPA,bPU,bPI,bPAA
bPEE,bPE,bPO,bPWA,bRYA,bMYA,bFYA,135D:aCOMBINING GEMINATION AND VOWEL LENGTH MARK
bVOWEL LENGTH MARK,bGEMINATION MARK,aSECTION MARK,aWORDSPACE,aFULL STOP,aCOMMA,aSEMICOLON,aCOLON
aPREFACE COLON,aQUESTION MARK,aPARAGRAPH SEPARATOR,aDIGIT ONE,bTWO,bTHREE,bFOUR,bFIVE,bSIX,bSEVEN
bEIGHT,bNINE,aNUMBER TEN,bTWENTY,bTHIRTY,bFORTY,bFIFTY,bSIXTY,bSEVENTY,bEIGHTY,bNINETY,bHUNDRED
bTEN THOUSAND,1380:aSYLLABLE SEBATBEIT MWA,bMWI,bMWEE,bMWE,bSEBATBEIT BWA,bBWI,bBWEE,bBWE
bSEBATBEIT FWA,bFWI,bFWEE,bFWE,bSEBATBEIT PWA,bPWI,bPWEE,bPWE,aTONAL MARK YIZET,cDERET,cRIKRIK
cSHORT RIKRIK,cDIFAT,cKENAT,cCHIRET,cHIDET,cDERET-HIDET,cKURT,13A0:CHEROKEE LETTER A,bE,bI,bO,bU
bV,bGA,bKA,bGE,bGI,bGO,bGU,bGV,bHA,bHE,bHI,bHO,bHU,bHV,bLA,bLE,bLI,bLO,bLU,bLV,bMA,bME,bMI,bMO,bMU
bNA,bHNA,bNAH,bNE,bNI,bNO,bNU,bNV,bQUA,bQUE,bQUI,bQUO,bQUU,bQUV,bSA,bS,bSE,bSI,bSO,bSU,bSV,bDA,bTA
bDE,bTE,bDI,bTI,bDO,bDU,bDV,bDLA,bTLA,bTLE,bTLI,bTLO,bTLU,bTLV,bTSA,bTSE,bTSI,bTSO,bTSU,bTSV,bWA
bWE,bWI,bWO,bWU,bWV,bYA,bYE,bYI,bYO,bYU,bYV,bMV,13F8:aSMALL LETTER YE,cYI,cYO,cYU,cYV,cMV
1400:CANADIAN SYLLABICS HYPHEN,bE,bAAI,bI,bII,bO,bOO,bY-CREE OO,bCARRIER EE,cI,bA,bAA,bWE
bWEST-CREE WE,bWI,bWEST-CREE WI,bWII,bWEST-CREE WII,bWO,bWEST-CREE WO,bWOO,bWEST-CREE WOO
bNASKAPI WOO,bWA,bWEST-CREE WA,bWAA,bWEST-CREE WAA,bNASKAPI WAA,bAI,bY-CREE W,bGLOTTAL STOP
bFINAL ACUTE,cGRAVE,cBOTTOM HALF RING,cTOP HALF RING,cRIGHT HALF RING,cRING,cDOUBLE ACUTE
dSHORT VERTICAL STROKES,cMIDDLE DOT,cSHORT HORIZONTAL STROKE,cPLUS,cDOWN TACK,bEN,bIN,bON,bAN,bPE
bPAAI,bPI,bPII,bPO,bPOO,bY-CREE POO,bCARRIER HEE,cHI,bPA,bPAA,bPWE,bWEST-CREE PWE,bPWI
bWEST-CREE PWI,bPWII,bWEST-CREE PWII,bPWO,bWEST-CREE PWO,bPWOO,bWEST-CREE PWOO,bPWA,bWEST-CREE PWA
bPWAA,bWEST-CREE PWAA,bY-CREE PWAA,bP,bWEST-CREE P,bCARRIER H,bTE,bTAAI,bTI,bTII,bTO,bTOO
bY-CREE TOO,bCARRIER DEE,cDI,bTA,bTAA,bTWE,bWEST-CREE TWE,bTWI,bWEST-CREE TWI,bTWII
bWEST-CREE TWII,bTWO,bWEST-CREE TWO,bTWOO,bWEST-CREE TWOO,bTWA,bWEST-CREE TWA,bTWAA
bWEST-CREE TWAA,bNASKAPI TWAA,bT,bTTE,bTTI,bTTO,bTTA,bKE,bKAAI,bKI,bKII,bKO,bKOO,bY-CREE KOO,bKA
bKAA,bKWE,bWEST-CREE KWE,bKWI,bWEST-CREE KWI,bKWII,bWEST-CREE KWII,bKWO,bWEST-CREE KWO,bKWOO
bWEST-CREE KWOO,bKWA,bWEST-CREE KWA,bKWAA,bWEST-CREE KWAA,bNASKAPI KWAA,bK,bKW,bSOUTH-SLAVEY KEH
cKIH,cKOH,cKAH,bCE,bCAAI,bCI,bCII,bCO,bCOO,bY-CREE COO,bCA,bCAA,bCWE,bWEST-CREE CWE,bCWI
bWEST-CREE CWI,bCWII,bWEST-CREE CWII,bCWO,bWEST-CREE CWO,bCWOO,bWEST-CREE CWOO,bCWA,bWEST-CREE CWA
bCWAA,bWEST-CREE CWAA,bNASKAPI CWAA,bC,bSAYISI TH,bME,bMAAI,bMI,bMII,bMO,bMOO,bY-CREE MOO,bMA,bMAA
bMWE,bWEST-CREE MWE,bMWI,bWEST-CREE MWI,bMWII,bWEST-CREE MWII,bMWO,bWEST-CREE MWO,bMWOO
bWEST-CREE MWOO,bMWA,bWEST-CREE MWA,bMWAA,bWEST-CREE MWAA,bNASKAPI MWAA,bM,bWEST-CREE M,bMH
bATHAPASCAN M,bSAYISI M,bNE,bNAAI,bNI,bNII,bNO,bNOO,bY-CREE NOO,bNA,bNAA,bNWE,bWEST-CREE NWE,bNWA
bWEST-CREE NWA,bNWAA,bWEST-CREE NWAA,bNASKAPI NWAA,bN,bCARRIER NG,bNH,bLE,bLAAI,bLI,bLII,bLO,bLOO
bY-CREE LOO,bLA,bLAA,bLWE,bWEST-CREE LWE,bLWI,bWEST-CREE LWI,bLWII,bWEST-CREE LWII,bLWO
bWEST-CREE LWO,bLWOO,bWEST-CREE LWOO,bLWA,bWEST-CREE LWA,bLWAA,bWEST-CREE LWAA,bL,bWEST-CREE L
bMEDIAL L,bSE,bSAAI,bSI,bSII,bSO,bSOO,bY-CREE SOO,bSA,bSAA,bSWE,bWEST-CREE SWE,bSWI,bWEST-CREE SWI
bSWII,bWEST-CREE SWII,bSWO,bWEST-CREE SWO,bSWOO,bWEST-CREE SWOO,bSWA,bWEST-CREE SWA,bSWAA
bWEST-CREE SWAA,bNASKAPI SWAA,bS,bATHAPASCAN S,bSW,bBLACKFOOT S,bMOOSE-CREE SK,bNASKAPI SKW,cS-W
cSPWA,cSTWA,cSKWA,cSCWA,bSHE,bSHI,bSHII,bSHO,bSHOO,bSHA,bSHAA,bSHWE,bWEST-CREE SHWE,bSHWI
bWEST-CREE SHWI,bSHWII,bWEST-CREE SHWII,bSHWO,bWEST-CREE SHWO,bSHWOO,bWEST-CREE SHWOO,bSHWA
bWEST-CREE SHWA,bSHWAA,bWEST-CREE SHWAA,bSH,bYE,bYAAI,bYI,bYII,bYO,bYOO,bY-CREE YOO,bYA,bYAA,bYWE
bWEST-CREE YWE,bYWI,bWEST-CREE YWI,bYWII,bWEST-CREE YWII,bYWO,bWEST-CREE YWO,bYWOO,bWEST-CREE YWOO
bYWA,bWEST-CREE YWA,bYWAA,bWEST-CREE YWAA,bNASKAPI YWAA,bY,bBIBLE-CREE Y,bWEST-CREE Y,bSAYISI YI
bRE,bR-CREE RE,bWEST-CREE LE,bRAAI,bRI,bRII,bRO,bROO,bWEST-CREE LO,bRA,bRAA,bWEST-CREE LA,bRWAA
bWEST-CREE RWAA,bR,bWEST-CREE R,bMEDIAL R,bFE,bFAAI,bFI,bFII,bFO,bFOO,bFA,bFAA,bFWAA
bWEST-CREE FWAA,bF,bTHE,bN-CREE THE,bTHI,bN-CREE THI,bTHII,bN-CREE THII,bTHO,bTHOO,bTHA,bTHAA
bTHWAA,bWEST-CREE THWAA,bTH,bTTHE,bTTHI,bTTHO,bTTHA,bTTH,bTYE,bTYI,bTYO,bTYA,bNUNAVIK HE,cHI,cHII
cHO,cHOO,cHA,cHAA,cH,bNUNAVUT H,bHK,bQAAI,bQI,bQII,bQO,bQOO,bQA,bQAA,bQ,bTLHE,bTLHI,bTLHO,bTLHA
bWEST-CREE RE,cRI,cRO,cRA,bNGAAI,bNGI,bNGII,bNGO,bNGOO,bNGA,bNGAA,bNG,bNNG,bSAYISI SHE,cSHI,cSHO
cSHA,bWOODS-CREE THE,cTHI,cTHO,cTHA,cTH,bLHI,bLHII,bLHO,bLHOO,bLHA,bLHAA,bLH,bTH-CREE THE,cTHI
cTHII,cTHO,cTHOO,cTHA,cTHAA,cTH,bAIVILIK B,bBLACKFOOT E,cI,cO,cA,cWE,cWI,cWO,cWA,cNE,cNI,cNO,cNA
cKE,cKI,cKO,cKA,bSAYISI HE,cHI,cHO,cHA,bCARRIER GHU,cGHO,cGHE,cGHEE,cGHI,cGHA,cRU,cRO,cRE,cREE,cRI
cRA,cWU,cWO,cWE,cWEE,cWI,cWA,cHWU,cHWO,cHWE,cHWEE,cHWI,cHWA,cTHU,cTHO,cTHE,cTHEE,cTHI,cTHA,cTTU
cTTO,cTTE,cTTEE,cTTI,cTTA,cPU,cPO,cPE,cPEE,cPI,cPA,cP,cGU,cGO,cGE,cGEE,cGI,cGA,cKHU,cKHO,cKHE
cKHEE,cKHI,cKHA,cKKU,cKKO,cKKE,cKKEE,cKKI,cKKA,cKK,cNU,cNO,cNE,cNEE,cNI,cNA,cMU,cMO,cME,cMEE,cMI
cMA,cYU,cYO,cYE,cYEE,cYI,cYA,cJU,bSAYISI JU,bCARRIER JO,cJE,cJEE,cJI,bSAYISI JI,bCARRIER JA,cJJU
cJJO,cJJE,cJJEE,cJJI,cJJA,cLU,cLO,cLE,cLEE,cLI,cLA,cDLU,cDLO,cDLE,cDLEE,cDLI,cDLA,cLHU,cLHO,cLHE
cLHEE,cLHI,cLHA,cTLHU,cTLHO,cTLHE,cTLHEE,cTLHI,cTLHA,cTLU,cTLO,cTLE,cTLEE,cTLI,cTLA,cZU,cZO,cZE
cZEE,cZI,cZA,cZ,cINITIAL Z,cDZU,cDZO,cDZE,cDZEE,cDZI,cDZA,cSU,cSO,cSE,cSEE,cSI,cSA,cSHU,cSHO,cSHE
cSHEE,cSHI,cSHA,cSH,cTSU,cTSO,cTSE,cTSEE,cTSI,cTSA,cCHU,cCHO,cCHE,cCHEE,cCHI,cCHA,cTTSU,cTTSO
cTTSE,cTTSEE,cTTSI,cTTSA,bCHI SIGN,bFULL STOP,bQAI,bNGAI,bNNGI,bNNGII,bNNGO,bNNGOO,bNNGA,bNNGAA
bWOODS-CREE THWEE,cTHWI,cTHWII,cTHWO,cTHWOO,cTHWA,cTHWAA,cFINAL TH,bBLACKFOOT W,OGHAM SPACE MARK
aLETTER BEITH,bLUIS,bFEARN,bSAIL,bNION,bUATH,bDAIR,bTINNE,bCOLL,bCEIRT,bMUIN,bGORT,bNGEADAL
bSTRAIF,bRUIS,bAILM,bONN,bUR,bEADHADH,bIODHADH,bEABHADH,bOR,bUILLEANN,bIFIN,bEAMHANCHOLL,bPEITH
aFEATHER MARK,aREVERSED FEATHER MARK,16A0:RUNIC LETTER FEHU FEOH FE F,bV,bURUZ UR U,bYR,bY,bW
bTHURISAZ THURS THORN,bETH,bANSUZ A,bOS O,bAC A,bAESC,bLONG-BRANCH-OSS O,bSHORT-TWIG-OSS O,bO,bOE
bON,bRAIDO RAD REID R,bKAUNA,bCEN,bKAUN K,bG,bENG,bGEBO GYFU G,bGAR,bWUNJO WYNN W,bHAGLAZ H
bHAEGL H,bLONG-BRANCH-HAGALL H,bSHORT-TWIG-HAGALL H,bNAUDIZ NYD NAUD N,bSHORT-TWIG-NAUD N
bDOTTED-N,bISAZ IS ISS I,bE,bJERAN J,bGER,bLONG-BRANCH-AR AE,bSHORT-TWIG-AR A,bIWAZ EOH
bPERTHO PEORTH P,bALGIZ EOLHX,bSOWILO S,bSIGEL LONG-BRANCH-SOL S,bSHORT-TWIG-SOL S,bC,bZ
bTIWAZ TIR TYR T,bSHORT-TWIG-TYR T,bD,bBERKANAN BEORC BJARKAN B,bSHORT-TWIG-BJARKAN B,bDOTTED-P
bOPEN-P,bEHWAZ EH E,bMANNAZ MAN M,bLONG-BRANCH-MADR M,bSHORT-TWIG-MADR M,bLAUKAZ LAGU LOGR L
bDOTTED-L,bINGWAZ,bING,bDAGAZ DAEG D,bOTHALAN ETHEL O,bEAR,bIOR,bCWEORTH,bCALC,bCEALC,bSTAN
bLONG-BRANCH-YR,bSHORT-TWIG-YR,bICELANDIC-YR,bQ,bX,aSINGLE PUNCTUATION,aMULTIPLE PUNCTUATION
aCROSS PUNCTUATION,aARLAUG SYMBOL,aTVIMADUR SYMBOL,aBELGTHOR SYMBOL,aLETTER K,bSH,bOO
bFRANKS CASKET OS,dIS,dEH,dAC,dAESC,1700:TAGALOG LETTER A,bI,bU,bKA,bGA,bNGA,bTA,bDA,bNA,bPA,bBA
bMA,bYA,bRA,bLA,bWA,bSA,bHA,aVOWEL SIGN I,cU,aSIGN VIRAMA,bPAMUDPOD,171F:aLETTER ARCHAIC RA
HANUNOO LETTER A,bI,bU,bKA,bGA,bNGA,bTA,bDA,bNA,bPA,bBA,bMA,bYA,bRA,bLA,bWA,bSA,bHA,aVOWEL SIGN I
cU,aSIGN PAMUDPOD,PHILIPPINE SINGLE PUNCTUATION,aDOUBLE PUNCTUATION,1740:BUHID LETTER A,bI,bU,bKA
bGA,bNGA,bTA,bDA,bNA,bPA,bBA,bMA,bYA,bRA,bLA,bWA,bSA,bHA,aVOWEL SIGN I,cU,1760:TAGBANWA LETTER A
bI,bU,bKA,bGA,bNGA,bTA,bDA,bNA,bPA,bBA,bMA,bYA,176E:bLA,bWA,bSA,1772:aVOWEL SIGN I,cU
1780:KHMER LETTER KA,bKHA,bKO,bKHO,bNGO,bCA,bCHA,bCO,bCHO,bNYO,bDA,bTTHA,bDO,bTTHO,bNNO,bTA,bTHA
bTO,bTHO,bNO,bBA,bPHA,bPO,bPHO,bMO,bYO,bRO,bLO,bVO,bSHA,bSSO,bSA,bHA,bLA,bQA
aINDEPENDENT VOWEL QAQ,cQAA,cQI,cQII,cQU,cQUK,cQUU,cQUUV,cRY,cRYY,cLY,cLYY,cQE,cQAI,cQOO TYPE ONE
eTWO,cQAU,aVOWEL INHERENT AQ,cAA,bSIGN AA,cI,cII,cY,cYY,cU,cUU,cUA,cOE,cYA,cIE,cE,cAE,cAI,cOO,cAU
aSIGN NIKAHIT,bREAHMUK,bYUUKALEAPINTU,bMUUSIKATOAN,bTRIISAP,bBANTOC,bROBAT,bTOANDAKHIAT,bKAKABAT
bAHSDA,bSAMYOK SANNYA,bVIRIAM,bCOENG,bBATHAMASAT,bKHAN,bBARIYOOSAN,bCAMNUC PII KUUH,bLEK TOO
bBEYYAL,bPHNAEK MUAN,bKOOMUUT,aCURRENCY SYMBOL RIEL,aSIGN AVAKRAHASANYA,bATTHACAN,17E0:aDIGIT ZERO
bONE,bTWO,bTHREE,bFOUR,bFIVE,bSIX,bSEVEN,bEIGHT,bNINE,17F0:aSYMBOL LEK ATTAK SON,dMUOY,dPII,dBEI
dBUON,dPRAM,dPRAM-MUOY,dPRAM-PII,dPRAM-BEI,dPRAM-BUON,1800:MONGOLIAN BIRGA,aELLIPSIS,aCOMMA
aFULL STOP,aCOLON,aFOUR DOTS,aTODO SOFT HYPHEN,aSIBE SYLLABLE BOUNDARY MARKER,aMANCHU COMMA
bFULL STOP,aNIRUGU,aFREE VARIATION SELECTOR ONE,dTWO,dTHREE,aVOWEL SEPARATOR
aFREE VARIATION SELECTOR FOUR,aDIGIT ZERO,bONE,bTWO,bTHREE,bFOUR,bFIVE,bSIX,bSEVEN,bEIGHT,bNINE
1820:aLETTER A,bE,bI,bO,bU,bOE,bUE,bEE,bNA,bANG,bBA,bPA,bQA,bGA,bMA,bLA,bSA,bSHA,bTA,bDA,bCHA,bJA
bYA,bRA,bWA,bFA,bKA,bKHA,bTSA,bZA,bHAA,bZRA,bLHA,bZHI,bCHI,bTODO LONG VOWEL SIGN,cE,cI,cO,cU,cOE
cUE,cANG,cBA,cPA,cQA,cGA,cMA,cTA,cDA,cCHA,cJA,cTSA,cYA,cWA,cKA,cGAA,cHAA,cJIA,cNIA,cDZA,bSIBE E,cI
cIY,cUE,cU,cANG,cKA,cGA,cHA,cPA,cSHA,cTA,cDA,cJA,cFA,cGAA,cHAA,cTSA,cZA,cRAA,cCHA,cZHA,bMANCHU I
cKA,cRA,cFA,cZHA,bCHA WITH TWO DOTS,1880:bALI GALI ANUSVARA ONE,dVISARGA ONE,dDAMARU,dUBADAMA
dINVERTED UBADAMA,dBALUDA,dTHREE BALUDA,dA,dI,dKA,dNGA,dCA,dTTA,dTTHA,dDDA,dNNA,dTA,dDA,dPA,dPHA
dSSA,dZHA,dZA,dAH,bTODO ALI GALI TA,eZHA,bMANCHU ALI GALI GHA,eNGA,eCA,eJHA,eTTA,eDDHA,eTA,eDHA
eSSA,eCYA,eZHA,eZA,bALI GALI HALF U,eYA,bMANCHU ALI GALI BHA,bALI GALI DAGALGA
bMANCHU ALI GALI LHA,18B0:CANADIAN SYLLABICS OY,bAY,bAAY,bWAY,bPOY,bPAY,bPWOY,bTAY,bKAY,bKWAY,bMAY
bNOY,bNAY,bLAY,bSOY,bSAY,bSHOY,bSHAY,bSHWOY,bYOY,bYAY,bRAY,bNWI,bOJIBWAY NWI,bNWII,bOJIBWAY NWII
bNWO,bOJIBWAY NWO,bNWOO,bOJIBWAY NWOO,bRWEE,bRWI,bRWII,bRWO,bRWOO,bRWA,bOJIBWAY P,cT,cK,cC,cM,cN
cS,cSH,bEASTERN W,bWESTERN W,bFINAL SMALL RING,cRAISED DOT,bR-CREE RWE,bWEST-CREE LOO,cLAA,bTHWE
bTHWA,bTTHWE,bTTHOO,bTTHAA,bTLHWE,bTLHOO,bSAYISI SHWE,cSHOO,cHOO,bCARRIER GWU,cDENE GEE,cGAA,cGWA
bSAYISI JUU,bCARRIER JWA,bBEAVER DENE L,dR,bCARRIER DENTAL S,1900:LIMBU VOWEL-CARRIER LETTER
aLETTER KA,bKHA,bGA,bGHA,bNGA,bCA,bCHA,bJA,bJHA,bYAN,bTA,bTHA,bDA,bDHA,bNA,bPA,bPHA,bBA,bBHA,bMA
bYA,bRA,bLA,bWA,bSHA,bSSA,bSA,bHA,bGYAN,bTRA,1920:aVOWEL SIGN A,cI,cU,cEE,cAI,cOO,cAU,cE,cO
aSUBJOINED LETTER YA,cRA,cWA,1930:aSMALL LETTER KA,cNGA,cANUSVARA,cTA,cNA,cPA,cMA,cRA,cLA
aSIGN MUKPHRENG,bKEMPHRENG,bSA-I,1940:bLOO,1944:aEXCLAMATION MARK,aQUESTION MARK,aDIGIT ZERO,bONE
bTWO,bTHREE,bFOUR,bFIVE,bSIX,bSEVEN,bEIGHT,bNINE,TAI LE LETTER KA,cXA,cNGA,cTSA,cSA,cYA,cTA,cTHA
cLA,cPA,cPHA,cMA,cFA,cVA,cHA,cQA,cKHA,cTSHA,cNA,cA,cI,cEE,cEH,cU,cOO,cO,cUE,cE,cAUE,cAI
1970:cTONE-2,cTONE-3,cTONE-4,cTONE-5,cTONE-6,1980:NEW TAI LUE LETTER HIGH QA,dLOW QA,dHIGH KA,eXA
eNGA,dLOW KA,eXA,eNGA,dHIGH TSA,eSA,eYA,dLOW TSA,eSA,eYA,dHIGH TA,eTHA,eNA,dLOW TA,eTHA,eNA
dHIGH PA,ePHA,eMA,dLOW PA,ePHA,eMA,dHIGH FA,eVA,eLA,dLOW FA,eVA,eLA,dHIGH HA,eDA,eBA,dLOW HA,eDA
eBA,dHIGH KVA,eXVA,dLOW KVA,eXVA,dHIGH SUA,dLOW SUA,19B0:cVOWEL SIGN VOWEL SHORTENER,eAA,eII,eU
eUU,eE,eAE,eO,eOA,eUE,eAY,eAAY,eUY,eOY,eOAY,eUEY,eIY,cLETTER FINAL V,eNG,eN,eM,eK,eD,eB
cTONE MARK-1,dMARK-2,19D0:cDIGIT ZERO,dONE,dTWO,dTHREE,dFOUR,dFIVE,dSIX,dSEVEN,dEIGHT,dNINE
cTHAM DIGIT ONE,19DE:cSIGN LAE,dLAEV,KHMER SYMBOL PATHAMASAT,bMUOY KOET,bPII KOET,bBEI KOET
bBUON KOET,bPRAM KOET,bPRAM-MUOY KOET,bPRAM-PII KOET,bPRAM-BEI KOET,bPRAM-BUON KOET,bDAP KOET
bDAP-MUOY KOET,bDAP-PII KOET,bDAP-BEI KOET,bDAP-BUON KOET,bDAP-PRAM KOET,bTUTEYASAT,bMUOY ROC
bPII ROC,bBEI ROC,bBUON ROC,bPRAM ROC,bPRAM-MUOY ROC,bPRAM-PII ROC,bPRAM-BEI ROC,bPRAM-BUON ROC
bDAP ROC,bDAP-MUOY ROC,bDAP-PII ROC,bDAP-BEI ROC,bDAP-BUON ROC,bDAP-PRAM ROC,BUGINESE LETTER KA
bGA,bNGA,bNGKA,bPA,bBA,bMA,bMPA,bTA,bDA,bNA,bNRA,bCA,bJA,bNYA,bNYCA,bYA,bRA,bLA,bVA,bSA,bA,bHA
aVOWEL SIGN I,cU,cE,cO,cAE,1A1E:aPALLAWA,aEND OF SECTION,TAI THAM LETTER HIGH KA,dKHA,dKXA,cLOW KA
dKXA,dKHA,cNGA,cHIGH CA,dCHA,cLOW CA,dSA,dCHA,cNYA,cRATA,cHIGH RATHA,cDA,cLOW RATHA,cRANA,cHIGH TA
dTHA,cLOW TA,dTHA,cNA,cBA,cHIGH PA,dPHA,dFA,cLOW PA,dFA,dPHA,cMA,cLOW YA,cHIGH YA,cRA,cRUE,cLA
cLUE,cWA,cHIGH SHA,dSSA,dSA,dHA,cLLA,cA,cLOW HA,cI,cII,cU,cUU,cEE,cOO,cLAE,cGREAT SA
bCONSONANT SIGN MEDIAL RA,eLA,dLA TANG LAI,bSIGN MAI KANG LAI,bCONSONANT SIGN FINAL NGA,dLOW PA
dHIGH RATHA OR LOW PA,dMA,dBA,dSA,1A60:bSIGN SAKOT,bVOWEL SIGN A,dMAI SAT,dAA,dTALL AA,dI,dII,dUE
dUUE,dU,dUU,dO,dOA BELOW,dOY,dE,dAE,dOO,dAI,dTHAM AI,dOA ABOVE,bSIGN MAI KANG,cTONE-1,cTONE-2
cKHUEN TONE-3,dTONE-4,dTONE-5,cRA HAAM,cMAI SAM,cKHUEN-LUE KARAN,1A7F:bCOMBINING CRYPTOGRAMMIC DOT
bHORA DIGIT ZERO,dONE,dTWO,dTHREE,dFOUR,dFIVE,dSIX,dSEVEN,dEIGHT,dNINE,1A90:bTHAM DIGIT ZERO,dONE
dTWO,dTHREE,dFOUR,dFIVE,dSIX,dSEVEN,dEIGHT,dNINE,1AA0:bSIGN WIANG,cWIANGWAAK,cSAWAN,cKEOW,cHOY
cDOKMAI,cREVERSED ROTATED RANA,cMAI YAMOK,cKAAN,cKAANKUU,cSATKAAN,cSATKAANKUU,cHANG,cCAANG
1AB0:COMBINING DOUBLED CIRCUMFLEX ACCENT,aDIAERESIS-RING,aINFINITY,aDOWNWARDS ARROW,aTRIPLE DOT
aX-X BELOW,aWIGGLY LINE BELOW,aOPEN MARK BELOW,aDOUBLE OPEN MARK BELOW
aLIGHT CENTRALIZATION STROKE BELOW,aSTRONG CENTRALIZATION STROKE BELOW,aPARENTHESES ABOVE
aDOUBLE PARENTHESES ABOVE,aPARENTHESES BELOW,bOVERLAY,aLATIN SMALL LETTER W BELOW,dTURNED W BELOW
aLEFT PARENTHESIS ABOVE LEFT,aRIGHT PARENTHESIS ABOVE RIGHT,aLEFT PARENTHESIS BELOW LEFT
aRIGHT PARENTHESIS BELOW RIGHT,aSQUARE BRACKETS ABOVE,aNUMBER SIGN ABOVE
aINVERTED DOUBLE ARCH ABOVE,aPLUS SIGN ABOVE,aDOUBLE PLUS SIGN ABOVE,dBELOW,aTRIPLE ACUTE ACCENT
aLATIN SMALL LETTER INSULAR G,eR,eT,1B00:BALINESE SIGN ULU RICEM,cCANDRA,bCECEK,bSURANG,bBISAH
aLETTER AKARA,cTEDUNG,bIKARA,cTEDUNG,bUKARA,cTEDUNG,bRA REPA,dTEDUNG,bLA LENGA,dTEDUNG,bEKARA
bAIKARA,bOKARA,cTEDUNG,bKA,cMAHAPRANA,bGA,cGORA,bNGA,bCA,cLACA,bJA,cJERA,bNYA,bTA LATIK
cMURDA MAHAPRANA,bDA MURDA ALPAPRANA,dMAHAPRANA,bNA RAMBAT,bTA,cTAWA,bDA,cMADU,bNA,bPA,cKAPAL,bBA
cKEMBANG,bMA,bYA,bRA,bLA,bWA,bSA SAGA,cSAPA,c,bHA,aSIGN REREKAN,aVOWEL SIGN TEDUNG,cULU,dSARI
cSUKU,dILUT,cRA REPA,eTEDUNG,cLA LENGA,eTEDUNG,cTALING,dREPA,dTEDUNG,dREPA TEDUNG,cPEPET,dTEDUNG
aADEG ADEG,aLETTER KAF SASAK,bKHOT SASAK,bTZIR SASAK,bEF SASAK,bVE SASAK,bZAL SASAK,bASYURA SASAK
bARCHAIC JNYA,1B50:aDIGIT ZERO,bONE,bTWO,bTHREE,bFOUR,bFIVE,bSIX,bSEVEN,bEIGHT,bNINE,aPANTI
aPAMADA,aWINDU,aCARIK PAMUNGKAH,bSIKI,bPAREREN,aPAMENENG,aMUSICAL SYMBOL DONG,cDENG,cDUNG,cDANG
dSURANG,cDING,cDAENG,cDEUNG,cDAING,cDANG GEDE,cCOMBINING TEGEH,dENDEP,dKEMPUL,dKEMPLI,dJEGOGAN
dKEMPUL WITH JEGOGAN,dKEMPLI WITH JEGOGAN,dBENDE,dGONG,cRIGHT-HAND OPEN DUG,eDAG,dCLOSED TUK,eTAK
cLEFT-HAND OPEN PANG,ePUNG,dCLOSED PLAK,ePLUK,dOPEN PING,aPANTI LANTANG,aPAMADA LANTANG
1B80:SUNDANESE SIGN PANYECEK,bPANGLAYAR,bPANGWISAD,aLETTER A,bI,bU,bAE,bO,bE,bEU,bKA,bQA,bGA,bNGA
bCA,bJA,bZA,bNYA,bTA,bDA,bNA,bPA,bFA,bVA,bBA,bMA,bYA,bRA,bLA,bWA,bSA,bXA,bHA
aCONSONANT SIGN PAMINGKAL,cPANYAKRA,cPANYIKU,aVOWEL SIGN PANGHULU,cPANYUKU,cPANAELAENG,cPANOLONG
cPAMEPET,cPANEULEUNG,aSIGN PAMAAEH,bVIRAMA,aCONSONANT SIGN PASANGAN MA,dWA,aLETTER KHA,bSYA
aDIGIT ZERO,bONE,bTWO,bTHREE,bFOUR,bFIVE,bSIX,bSEVEN,bEIGHT,bNINE,aAVAGRAHA,aLETTER REU,bLEU,bBHA
bFINAL K,cM,BATAK LETTER A,bSIMALUNGUN A,bHA,bSIMALUNGUN HA,bMANDAILING HA,bBA,bKARO BA,bPA
bSIMALUNGUN PA,bNA,bMANDAILING NA,bWA,bSIMALUNGUN WA,bPAKPAK WA,bGA,bSIMALUNGUN GA,bJA,bDA,bRA
bSIMALUNGUN RA,bMA,bSIMALUNGUN MA,bSOUTHERN TA,bNORTHERN TA,bSA,bSIMALUNGUN SA,bMANDAILING SA,bYA
bSIMALUNGUN YA,bNGA,bLA,bSIMALUNGUN LA,bNYA,bCA,bNDA,bMBA,bI,bU,aSIGN TOMPI,aVOWEL SIGN E
cPAKPAK E,cEE,cI,cKARO I,cO,cKARO O,cU,dFOR SIMALUNGUN SA,aCONSONANT SIGN NG,cH,aPANGOLAT
aPANONGONAN,1BFC:aSYMBOL BINDU NA METEK,cPINARBORAS,cJUDUL,cPANGOLAT,LEPCHA LETTER KA,bKLA,bKHA
bGA,bGLA,bNGA,bCA,bCHA,bJA,bNYA,bTA,bTHA,bDA,bNA,bPA,bPLA,bPHA,bFA,bFLA,bBA,bBLA,bMA,bMLA,bTSA
bTSHA,bDZA,bYA,bRA,bLA,bHA,bHLA,bVA,bSA,bSHA,bWA,bA,aSUBJOINED LETTER YA,cRA,aVOWEL SIGN AA,cI,cO
cOO,cU,cUU,cE,aCONSONANT SIGN K,cM,cL,cN,cP,cR,cT,cNYIN-DO,cKANG,aSIGN RAN,bNUKTA
1C3B:aPUNCTUATION TA-ROL,bNYET THYOOM TA-ROL,bCER-WA,bTSHOOK CER-WA,c,aDIGIT ZERO,bONE,bTWO,bTHREE
bFOUR,bFIVE,bSIX,bSEVEN,bEIGHT,bNINE,1C4D:aLETTER TTA,bTTHA,bDDA,OL CHIKI DIGIT ZERO,cONE,cTWO
cTHREE,cFOUR,cFIVE,cSIX,cSEVEN,cEIGHT,cNINE,bLETTER LA,cAT,cAG,cANG,cAL,cLAA,cAAK,cAAJ,cAAM,cAAW
cLI,cIS,cIH,cINY,cIR,cLU,cUC,cUD,cUNN,cUY,cLE,cEP,cEDD,cEN,cERR,cLO,cOTT,cOB,cOV,cOH,bMU TTUDDAG
bGAAHLAA TTUDDAAG,bMU-GAAHLAA TTUDDAAG,bRELAA,bPHAARKAA,bAHAD,bPUNCTUATION MUCAAD,cDOUBLE MUCAAD
CYRILLIC SMALL LETTER ROUNDED VE,cLONG-LEGGED DE,cNARROW O,cWIDE ES,cTALL TE,cTHREE-LEGGED TE
cTALL HARD SIGN,dYAT,cUNBLENDED UK,1C90:GEORGIAN MTAVRULI CAPITAL LETTER AN,dBAN,dGAN,dDON,dEN
dVIN,dZEN,dTAN,dIN,dKAN,dLAS,dMAN,dNAR,dON,dPAR,dZHAR,dRAE,dSAN,dTAR,dUN,dPHAR,dKHAR,dGHAN,dQAR
dSHIN,dCHIN,dCAN,dJIL,dCIL,dCHAR,dXAN,dJHAN,dHAE,dHE,dHIE,dWE,dHAR,dHOE,dFI,dYN,dELIFI,dTURNED GAN
dAIN,1CBD:dAEN,dHARD SIGN,dLABIAL SIGN,SUNDANESE PUNCTUATION BINDU SURYA,cPANGLONG,cPURNAMA,cCAKRA
cLEU SATANGA,cKA SATANGA,cDA SATANGA,cBA SATANGA,1CD0:VEDIC TONE KARSHANA,bSHARA,bPRENKHA
aSIGN NIHSHVASA,bYAJURVEDIC MIDLINE SVARITA,aTONE YAJURVEDIC AGGRAVATED INDEPENDENT SVARITA
cINDEPENDENT SVARITA,cKATHAKA INDEPENDENT SVARITA,bCANDRA BELOW
bYAJURVEDIC KATHAKA INDEPENDENT SVARITA SCHROEDER,bDOUBLE SVARITA,bTRIPLE SVARITA
bKATHAKA ANUDATTA,bDOT BELOW,bTWO DOTS BELOW,bTHREE DOTS BELOW
bRIGVEDIC KASHMIRI INDEPENDENT SVARITA,bATHARVAVEDIC INDEPENDENT SVARITA,aSIGN VISARGA SVARITA
cUDATTA,bREVERSED VISARGA UDATTA,bVISARGA ANUDATTA,bREVERSED VISARGA ANUDATTA
bVISARGA UDATTA WITH TAIL,cANUDATTA WITH TAIL,bANUSVARA ANTARGOMUKHA,cBAHIRGOMUKHA,cVAMAGOMUKHA
dWITH TAIL,bTIRYAK,bHEXIFORM LONG ANUSVARA,bLONG ANUSVARA,bRTHANG LONG ANUSVARA
bANUSVARA UBHAYATO MUKHA,bARDHAVISARGA,bROTATED ARDHAVISARGA,aTONE CANDRA ABOVE,aSIGN JIHVAMULIYA
bUPADHMANIYA,bATIKRAMA,aTONE RING ABOVE,bDOUBLE RING ABOVE,aSIGN DOUBLE ANUSVARA ANTARGOMUKHA
1D00:LATIN LETTER SMALL CAPITAL A,dAE,aSMALL LETTER TURNED AE,aLETTER SMALL CAPITAL BARRED B,dC,dD
dETH,dE,aSMALL LETTER TURNED OPEN E,dI,aLETTER SMALL CAPITAL J,dK,dL WITH STROKE,dM,dREVERSED N,dO
dOPEN O,aSMALL LETTER SIDEWAYS O,dOPEN O,dO WITH STROKE,cTURNED OE,aLETTER SMALL CAPITAL OU
aSMALL LETTER TOP HALF O,cBOTTOM HALF O,aLETTER SMALL CAPITAL P,dREVERSED R,dTURNED R,dT,dU
aSMALL LETTER SIDEWAYS U,dDIAERESIZED U,dTURNED M,aLETTER SMALL CAPITAL V,dW,dZ,dEZH
bVOICED LARYNGEAL SPIRANT,bAIN,GREEK LETTER SMALL CAPITAL GAMMA,dLAMDA,dPI,dRHO,dPSI
CYRILLIC LETTER SMALL CAPITAL EL,MODIFIER LETTER CAPITAL A,cAE,cB,cBARRED B,cD,cE,cREVERSED E,cG
cH,cI,cJ,cK,cL,cM,cN,cREVERSED N,cO,cOU,cP,cR,cT,cU,cW,bSMALL A,cTURNED A,cALPHA,cTURNED AE,cB,cD
cE,cSCHWA,cOPEN E,cTURNED OPEN E,cG,cTURNED I,cK,cM,cENG,cO,cOPEN O,cTOP HALF O,cBOTTOM HALF O,cP
cT,cU,cSIDEWAYS U,cTURNED M,cV,cAIN,cBETA,cGREEK GAMMA,cDELTA,cGREEK PHI,cCHI
LATIN SUBSCRIPT SMALL LETTER I,dR,dU,dV,GREEK SUBSCRIPT SMALL LETTER BETA,dGAMMA,dRHO,dPHI,dCHI
LATIN SMALL LETTER UE,cB WITH MIDDLE TILDE,cD WITH MIDDLE TILDE,cF WITH MIDDLE TILDE
cM WITH MIDDLE TILDE,cN WITH MIDDLE TILDE,cP WITH MIDDLE TILDE,cR WITH MIDDLE TILDE
eFISHHOOK AND MIDDLE TILDE,cS WITH MIDDLE TILDE,cT WITH MIDDLE TILDE,cZ WITH MIDDLE TILDE
cTURNED G,MODIFIER LETTER CYRILLIC EN,LATIN SMALL LETTER INSULAR G,cTH WITH STRIKETHROUGH
bCAPITAL LETTER I WITH STROKE,bLETTER IOTA WITH STROKE,cP WITH STROKE
bCAPITAL LETTER U WITH STROKE,bLETTER UPSILON WITH STROKE,cB WITH PALATAL HOOK
cD WITH PALATAL HOOK,cF WITH PALATAL HOOK,cG WITH PALATAL HOOK,cK WITH PALATAL HOOK
cL WITH PALATAL HOOK,cM WITH PALATAL HOOK,cN WITH PALATAL HOOK,cP WITH PALATAL HOOK
cR WITH PALATAL HOOK,cS WITH PALATAL HOOK,cESH WITH PALATAL HOOK,cV WITH PALATAL HOOK
cX WITH PALATAL HOOK,cZ WITH PALATAL HOOK,cA WITH RETROFLEX HOOK,cALPHA WITH RETROFLEX HOOK
cD WITH HOOK AND TAIL,cE WITH RETROFLEX HOOK,cOPEN E WITH RETROFLEX HOOK
cREVERSED OPEN E WITH RETROFLEX HOOK,cSCHWA WITH RETROFLEX HOOK,cI WITH RETROFLEX HOOK
cOPEN O WITH RETROFLEX HOOK,cESH WITH RETROFLEX HOOK,cU WITH RETROFLEX HOOK
cEZH WITH RETROFLEX HOOK,MODIFIER LETTER SMALL TURNED ALPHA,cC,dWITH CURL,cETH,cREVERSED OPEN E,cF
cDOTLESS J WITH STROKE,cSCRIPT G,cTURNED H,cI WITH STROKE,cIOTA,cCAPITAL I,eWITH STROKE
cJ WITH CROSSED-TAIL,cL WITH RETROFLEX HOOK,ePALATAL HOOK,cCAPITAL L,cM WITH HOOK
cTURNED M WITH LONG LEG,cN WITH LEFT HOOK,eRETROFLEX HOOK,cCAPITAL N,cBARRED O,cPHI,cS WITH HOOK
cESH,cT WITH PALATAL HOOK,cU BAR,cUPSILON,cCAPITAL U,cV WITH HOOK,cTURNED V,cZ
dWITH RETROFLEX HOOK,eCURL,cEZH,cTHETA,COMBINING DOTTED GRAVE ACCENT,bACUTE ACCENT,aSNAKE BELOW
aSUSPENSION MARK,aMACRON-ACUTE,aGRAVE-MACRON,aMACRON-GRAVE,aACUTE-MACRON,aGRAVE-ACUTE-GRAVE
aACUTE-GRAVE-ACUTE,aLATIN SMALL LETTER R BELOW,aBREVE-MACRON,aMACRON-BREVE
aDOUBLE CIRCUMFLEX ABOVE,aOGONEK ABOVE,aZIGZAG BELOW,aIS BELOW,aUR ABOVE,aUS ABOVE
aLATIN SMALL LETTER FLATTENED OPEN A ABOVE,dAE,dAO,dAV,dC CEDILLA,dINSULAR D,dETH,dG
bLETTER SMALL CAPITAL G,bSMALL LETTER K,dL,bLETTER SMALL CAPITAL L,eM,bSMALL LETTER N
bLETTER SMALL CAPITAL N,eR,bSMALL LETTER R ROTUNDA,dS,dLONG S,dZ,dALPHA,dB,dBETA,dSCHWA,dF
dL WITH DOUBLE MIDDLE TILDE,dO WITH LIGHT CENTRALIZATION STROKE,dP,dESH
dU WITH LIGHT CENTRALIZATION STROKE,dW,dA WITH DIAERESIS,dO WITH DIAERESIS,dU WITH DIAERESIS
aUP TACK ABOVE,aKAVYKA ABOVE RIGHT,cLEFT,aDOT ABOVE LEFT,aWIDE INVERTED BRIDGE BELOW
aDOT BELOW LEFT,aDELETION MARK,aDOUBLE INVERTED BREVE BELOW,aALMOST EQUAL TO BELOW
aLEFT ARROWHEAD ABOVE,aRIGHT ARROWHEAD AND DOWN ARROWHEAD BELOW
LATIN CAPITAL LETTER A WITH RING BELOW,aSMALL LETTER A WITH RING BELOW
aCAPITAL LETTER B WITH DOT ABOVE,aSMALL LETTER B WITH DOT ABOVE,aCAPITAL LETTER B WITH DOT BELOW
aSMALL LETTER B WITH DOT BELOW,aCAPITAL LETTER B WITH LINE BELOW,aSMALL LETTER B WITH LINE BELOW
aCAPITAL LETTER C WITH CEDILLA AND ACUTE,aSMALL LETTER C WITH CEDILLA AND ACUTE
aCAPITAL LETTER D WITH DOT ABOVE,aSMALL LETTER D WITH DOT ABOVE,aCAPITAL LETTER D WITH DOT BELOW
aSMALL LETTER D WITH DOT BELOW,aCAPITAL LETTER D WITH LINE BELOW,aSMALL LETTER D WITH LINE BELOW
aCAPITAL LETTER D WITH CEDILLA,aSMALL LETTER D WITH CEDILLA
aCAPITAL LETTER D WITH CIRCUMFLEX BELOW,aSMALL LETTER D WITH CIRCUMFLEX BELOW
aCAPITAL LETTER E WITH MACRON AND GRAVE,aSMALL LETTER E WITH MACRON AND GRAVE
aCAPITAL LETTER E WITH MACRON AND ACUTE,aSMALL LETTER E WITH MACRON AND ACUTE
aCAPITAL LETTER E WITH CIRCUMFLEX BELOW,aSMALL LETTER E WITH CIRCUMFLEX BELOW
aCAPITAL LETTER E WITH TILDE BELOW,aSMALL LETTER E WITH TILDE BELOW
aCAPITAL LETTER E WITH CEDILLA AND BREVE,aSMALL LETTER E WITH CEDILLA AND BREVE
aCAPITAL LETTER F WITH DOT ABOVE,aSMALL LETTER F WITH DOT ABOVE,aCAPITAL LETTER G WITH MACRON
aSMALL LETTER G WITH MACRON,aCAPITAL LETTER H WITH DOT ABOVE,aSMALL LETTER H WITH DOT ABOVE
aCAPITAL LETTER H WITH DOT BELOW,aSMALL LETTER H WITH DOT BELOW,aCAPITAL LETTER H WITH DIAERESIS
aSMALL LETTER H WITH DIAERESIS,aCAPITAL LETTER H WITH CEDILLA,aSMALL LETTER H WITH CEDILLA
aCAPITAL LETTER H WITH BREVE BELOW,aSMALL LETTER H WITH BREVE BELOW
aCAPITAL LETTER I WITH TILDE BELOW,aSMALL LETTER I WITH TILDE BELOW
aCAPITAL LETTER I WITH DIAERESIS AND ACUTE,aSMALL LETTER I WITH DIAERESIS AND ACUTE
aCAPITAL LETTER K WITH ACUTE,aSMALL LETTER K WITH ACUTE,aCAPITAL LETTER K WITH DOT BELOW
aSMALL LETTER K WITH DOT BELOW,aCAPITAL LETTER K WITH LINE BELOW,aSMALL LETTER K WITH LINE BELOW
aCAPITAL LETTER L WITH DOT BELOW,aSMALL LETTER L WITH DOT BELOW
aCAPITAL LETTER L WITH DOT BELOW AND MACRON,aSMALL LETTER L WITH DOT BELOW AND MACRON
aCAPITAL LETTER L WITH LINE BELOW,aSMALL LETTER L WITH LINE BELOW
aCAPITAL LETTER L WITH CIRCUMFLEX BELOW,aSMALL LETTER L WITH CIRCUMFLEX BELOW
aCAPITAL LETTER M WITH ACUTE,aSMALL LETTER M WITH ACUTE,aCAPITAL LETTER M WITH DOT ABOVE
aSMALL LETTER M WITH DOT ABOVE,aCAPITAL LETTER M WITH DOT BELOW,aSMALL LETTER M WITH DOT BELOW
aCAPITAL LETTER N WITH DOT ABOVE,aSMALL LETTER N WITH DOT ABOVE,aCAPITAL LETTER N WITH DOT BELOW
aSMALL LETTER N WITH DOT BELOW,aCAPITAL LETTER N WITH LINE BELOW,aSMALL LETTER N WITH LINE BELOW
aCAPITAL LETTER N WITH CIRCUMFLEX BELOW,aSMALL LETTER N WITH CIRCUMFLEX BELOW
aCAPITAL LETTER O WITH TILDE AND ACUTE,aSMALL LETTER O WITH TILDE AND ACUTE
aCAPITAL LETTER O WITH TILDE AND DIAERESIS,aSMALL LETTER O WITH TILDE AND DIAERESIS
aCAPITAL LETTER O WITH MACRON AND GRAVE,aSMALL LETTER O WITH MACRON AND GRAVE
aCAPITAL LETTER O WITH MACRON AND ACUTE,aSMALL LETTER O WITH MACRON AND ACUTE
aCAPITAL LETTER P WITH ACUTE,aSMALL LETTER P WITH ACUTE,aCAPITAL LETTER P WITH DOT ABOVE
aSMALL LETTER P WITH DOT ABOVE,aCAPITAL LETTER R WITH DOT ABOVE,aSMALL LETTER R WITH DOT ABOVE
aCAPITAL LETTER R WITH DOT BELOW,aSMALL LETTER R WITH DOT BELOW
aCAPITAL LETTER R WITH DOT BELOW AND MACRON,aSMALL LETTER R WITH DOT BELOW AND MACRON
aCAPITAL LETTER R WITH LINE BELOW,aSMALL LETTER R WITH LINE BELOW,aCAPITAL LETTER S WITH DOT ABOVE
aSMALL LETTER S WITH DOT ABOVE,aCAPITAL LETTER S WITH DOT BELOW,aSMALL LETTER S WITH DOT BELOW
aCAPITAL LETTER S WITH ACUTE AND DOT ABOVE,aSMALL LETTER S WITH ACUTE AND DOT ABOVE
aCAPITAL LETTER S WITH CARON AND DOT ABOVE,aSMALL LETTER S WITH CARON AND DOT ABOVE
aCAPITAL LETTER S WITH DOT BELOW AND DOT ABOVE,aSMALL LETTER S WITH DOT BELOW AND DOT ABOVE
aCAPITAL LETTER T WITH DOT ABOVE,aSMALL LETTER T WITH DOT ABOVE,aCAPITAL LETTER T WITH DOT BELOW
aSMALL LETTER T WITH DOT BELOW,aCAPITAL LETTER T WITH LINE BELOW,aSMALL LETTER T WITH LINE BELOW
aCAPITAL LETTER T WITH CIRCUMFLEX BELOW,aSMALL LETTER T WITH CIRCUMFLEX BELOW
aCAPITAL LETTER U WITH DIAERESIS BELOW,aSMALL LETTER U WITH DIAERESIS BELOW
aCAPITAL LETTER U WITH TILDE BELOW,aSMALL LETTER U WITH TILDE BELOW
aCAPITAL LETTER U WITH CIRCUMFLEX BELOW,aSMALL LETTER U WITH CIRCUMFLEX BELOW
aCAPITAL LETTER U WITH TILDE AND ACUTE,aSMALL LETTER U WITH TILDE AND ACUTE
aCAPITAL LETTER U WITH MACRON AND DIAERESIS,aSMALL LETTER U WITH MACRON AND DIAERESIS
aCAPITAL LETTER V WITH TILDE,aSMALL LETTER V WITH TILDE,aCAPITAL LETTER V WITH DOT BELOW
aSMALL LETTER V WITH DOT BELOW,aCAPITAL LETTER W WITH GRAVE,aSMALL LETTER W WITH GRAVE
aCAPITAL LETTER W WITH ACUTE,aSMALL LETTER W WITH ACUTE,aCAPITAL LETTER W WITH DIAERESIS
aSMALL LETTER W WITH DIAERESIS,aCAPITAL LETTER W WITH DOT ABOVE,aSMALL LETTER W WITH DOT ABOVE
aCAPITAL LETTER W WITH DOT BELOW,aSMALL LETTER W WITH DOT BELOW,aCAPITAL LETTER X WITH DOT ABOVE
aSMALL LETTER X WITH DOT ABOVE,aCAPITAL LETTER X WITH DIAERESIS,aSMALL LETTER X WITH DIAERESIS
aCAPITAL LETTER Y WITH DOT ABOVE,aSMALL LETTER Y WITH DOT ABOVE,aCAPITAL LETTER Z WITH CIRCUMFLEX
aSMALL LETTER Z WITH CIRCUMFLEX,aCAPITAL LETTER Z WITH DOT BELOW,aSMALL LETTER Z WITH DOT BELOW
aCAPITAL LETTER Z WITH LINE BELOW,aSMALL LETTER Z WITH LINE BELOW,cH WITH LINE BELOW
cT WITH DIAERESIS,cW WITH RING ABOVE,cY WITH RING ABOVE,cA WITH RIGHT HALF RING
cLONG S WITH DOT ABOVE,fDIAGONAL STROKE,fHIGH STROKE,aCAPITAL LETTER SHARP S,aSMALL LETTER DELTA
aCAPITAL LETTER A WITH DOT BELOW,aSMALL LETTER A WITH DOT BELOW,aCAPITAL LETTER A WITH HOOK ABOVE
aSMALL LETTER A WITH HOOK ABOVE,aCAPITAL LETTER A WITH CIRCUMFLEX AND ACUTE
aSMALL LETTER A WITH CIRCUMFLEX AND ACUTE,aCAPITAL LETTER A WITH CIRCUMFLEX AND GRAVE
aSMALL LETTER A WITH CIRCUMFLEX AND GRAVE,aCAPITAL LETTER A WITH CIRCUMFLEX AND HOOK ABOVE
aSMALL LETTER A WITH CIRCUMFLEX AND HOOK ABOVE,aCAPITAL LETTER A WITH CIRCUMFLEX AND TILDE
aSMALL LETTER A WITH CIRCUMFLEX AND TILDE,aCAPITAL LETTER A WITH CIRCUMFLEX AND DOT BELOW
aSMALL LETTER A WITH CIRCUMFLEX AND DOT BELOW,aCAPITAL LETTER A WITH BREVE AND ACUTE
aSMALL LETTER A WITH BREVE AND ACUTE,aCAPITAL LETTER A WITH BREVE AND GRAVE
aSMALL LETTER A WITH BREVE AND GRAVE,aCAPITAL LETTER A WITH BREVE AND HOOK ABOVE
aSMALL LETTER A WITH BREVE AND HOOK ABOVE,aCAPITAL LETTER A WITH BREVE AND TILDE
aSMALL LETTER A WITH BREVE AND TILDE,aCAPITAL LETTER A WITH BREVE AND DOT BELOW
aSMALL LETTER A WITH BREVE AND DOT BELOW,aCAPITAL LETTER E WITH DOT BELOW
aSMALL LETTER E WITH DOT BELOW,aCAPITAL LETTER E WITH HOOK ABOVE,aSMALL LETTER E WITH HOOK ABOVE
aCAPITAL LETTER E WITH TILDE,aSMALL LETTER E WITH TILDE
aCAPITAL LETTER E WITH CIRCUMFLEX AND ACUTE,aSMALL LETTER E WITH CIRCUMFLEX AND ACUTE
aCAPITAL LETTER E WITH CIRCUMFLEX AND GRAVE,aSMALL LETTER E WITH CIRCUMFLEX AND GRAVE
aCAPITAL LETTER E WITH CIRCUMFLEX AND HOOK ABOVE,aSMALL LETTER E WITH CIRCUMFLEX AND HOOK ABOVE
aCAPITAL LETTER E WITH CIRCUMFLEX AND TILDE,aSMALL LETTER E WITH CIRCUMFLEX AND TILDE
aCAPITAL LETTER E WITH CIRCUMFLEX AND DOT BELOW,aSMALL LETTER E WITH CIRCUMFLEX AND DOT BELOW
aCAPITAL LETTER I WITH HOOK ABOVE,aSMALL LETTER I WITH HOOK ABOVE,aCAPITAL LETTER I WITH DOT BELOW
aSMALL LETTER I WITH DOT BELOW,aCAPITAL LETTER O WITH DOT BELOW,aSMALL LETTER O WITH DOT BELOW
aCAPITAL LETTER O WITH HOOK ABOVE,aSMALL LETTER O WITH HOOK ABOVE
aCAPITAL LETTER O WITH CIRCUMFLEX AND ACUTE,aSMALL LETTER O WITH CIRCUMFLEX AND ACUTE
aCAPITAL LETTER O WITH CIRCUMFLEX AND GRAVE,aSMALL LETTER O WITH CIRCUMFLEX AND GRAVE
aCAPITAL LETTER O WITH CIRCUMFLEX AND HOOK ABOVE,aSMALL LETTER O WITH CIRCUMFLEX AND HOOK ABOVE
aCAPITAL LETTER O WITH CIRCUMFLEX AND TILDE,aSMALL LETTER O WITH CIRCUMFLEX AND TILDE
aCAPITAL LETTER O WITH CIRCUMFLEX AND DOT BELOW,aSMALL LETTER O WITH CIRCUMFLEX AND DOT BELOW
aCAPITAL LETTER O WITH HORN AND ACUTE,aSMALL LETTER O WITH HORN AND ACUTE
aCAPITAL LETTER O WITH HORN AND GRAVE,aSMALL LETTER O WITH HORN AND GRAVE
aCAPITAL LETTER O WITH HORN AND HOOK ABOVE,aSMALL LETTER O WITH HORN AND HOOK ABOVE
aCAPITAL LETTER O WITH HORN AND TILDE,aSMALL LETTER O WITH HORN AND TILDE
aCAPITAL LETTER O WITH HORN AND DOT BELOW,aSMALL LETTER O WITH HORN AND DOT BELOW
aCAPITAL LETTER U WITH DOT BELOW,aSMALL LETTER U WITH DOT BELOW,aCAPITAL LETTER U WITH HOOK ABOVE
aSMALL LETTER U WITH HOOK ABOVE,aCAPITAL LETTER U WITH HORN AND ACUTE
aSMALL LETTER U WITH HORN AND ACUTE,aCAPITAL LETTER U WITH HORN AND GRAVE
aSMALL LETTER U WITH HORN AND GRAVE,aCAPITAL LETTER U WITH HORN AND HOOK ABOVE
aSMALL LETTER U WITH HORN AND HOOK ABOVE,aCAPITAL LETTER U WITH HORN AND TILDE
aSMALL LETTER U WITH HORN AND TILDE,aCAPITAL LETTER U WITH HORN AND DOT BELOW
aSMALL LETTER U WITH HORN AND DOT BELOW,aCAPITAL LETTER Y WITH GRAVE,aSMALL LETTER Y WITH GRAVE
aCAPITAL LETTER Y WITH DOT BELOW,aSMALL LETTER Y WITH DOT BELOW,aCAPITAL LETTER Y WITH HOOK ABOVE
aSMALL LETTER Y WITH HOOK ABOVE,aCAPITAL LETTER Y WITH TILDE,aSMALL LETTER Y WITH TILDE
aCAPITAL LETTER MIDDLE-WELSH LL,aSMALL LETTER MIDDLE-WELSH LL,aCAPITAL LETTER MIDDLE-WELSH V
aSMALL LETTER MIDDLE-WELSH V,aCAPITAL LETTER Y WITH LOOP,aSMALL LETTER Y WITH LOOP
GREEK SMALL LETTER ALPHA WITH PSILI,eDASIA,ePSILI AND VARIA,eDASIA AND VARIA,ePSILI AND OXIA
eDASIA AND OXIA,ePSILI AND PERISPOMENI,eDASIA AND PERISPOMENI,aCAPITAL LETTER ALPHA WITH PSILI
eDASIA,ePSILI AND VARIA,eDASIA AND VARIA,ePSILI AND OXIA,eDASIA AND OXIA,ePSILI AND PERISPOMENI
eDASIA AND PERISPOMENI,aSMALL LETTER EPSILON WITH PSILI,eDASIA,ePSILI AND VARIA,eDASIA AND VARIA
ePSILI AND OXIA,eDASIA AND OXIA,1F18:aCAPITAL LETTER EPSILON WITH PSILI,eDASIA,ePSILI AND VARIA
eDASIA AND VARIA,ePSILI AND OXIA,eDASIA AND OXIA,1F20:aSMALL LETTER ETA WITH PSILI,eDASIA
ePSILI AND VARIA,eDASIA AND VARIA,ePSILI AND OXIA,eDASIA AND OXIA,ePSILI AND PERISPOMENI
eDASIA AND PERISPOMENI,aCAPITAL LETTER ETA WITH PSILI,eDASIA,ePSILI AND VARIA,eDASIA AND VARIA
ePSILI AND OXIA,eDASIA AND OXIA,ePSILI AND PERISPOMENI,eDASIA AND PERISPOMENI
aSMALL LETTER IOTA WITH PSILI,eDASIA,ePSILI AND VARIA,eDASIA AND VARIA,ePSILI AND OXIA
eDASIA AND OXIA,ePSILI AND PERISPOMENI,eDASIA AND PERISPOMENI,aCAPITAL LETTER IOTA WITH PSILI
eDASIA,ePSILI AND VARIA,eDASIA AND VARIA,ePSILI AND OXIA,eDASIA AND OXIA,ePSILI AND PERISPOMENI
eDASIA AND PERISPOMENI,aSMALL LETTER OMICRON WITH PSILI,eDASIA,ePSILI AND VARIA,eDASIA AND VARIA
ePSILI AND OXIA,eDASIA AND OXIA,1F48:aCAPITAL LETTER OMICRON WITH PSILI,eDASIA,ePSILI AND VARIA
eDASIA AND VARIA,ePSILI AND OXIA,eDASIA AND OXIA,1F50:aSMALL LETTER UPSILON WITH PSILI,eDASIA
ePSILI AND VARIA,eDASIA AND VARIA,ePSILI AND OXIA,eDASIA AND OXIA,ePSILI AND PERISPOMENI
eDASIA AND PERISPOMENI,1F59:aCAPITAL LETTER UPSILON WITH DASIA,1F5B:fAND VARIA,1F5D:gOXIA
1F5F:gPERISPOMENI,aSMALL LETTER OMEGA WITH PSILI,eDASIA,ePSILI AND VARIA,eDASIA AND VARIA
ePSILI AND OXIA,eDASIA AND OXIA,ePSILI AND PERISPOMENI,eDASIA AND PERISPOMENI
aCAPITAL LETTER OMEGA WITH PSILI,eDASIA,ePSILI AND VARIA,eDASIA AND VARIA,ePSILI AND OXIA
eDASIA AND OXIA,ePSILI AND PERISPOMENI,eDASIA AND PERISPOMENI,aSMALL LETTER ALPHA WITH VARIA,eOXIA
cEPSILON WITH VARIA,eOXIA,cETA WITH VARIA,eOXIA,cIOTA WITH VARIA,eOXIA,cOMICRON WITH VARIA,eOXIA
cUPSILON WITH VARIA,eOXIA,cOMEGA WITH VARIA,eOXIA,1F80:cALPHA WITH PSILI AND YPOGEGRAMMENI
eDASIA AND YPOGEGRAMMENI,ePSILI AND VARIA AND YPOGEGRAMMENI,eDASIA AND VARIA AND YPOGEGRAMMENI
ePSILI AND OXIA AND YPOGEGRAMMENI,eDASIA AND OXIA AND YPOGEGRAMMENI
ePSILI AND PERISPOMENI AND YPOGEGRAMMENI,eDASIA AND PERISPOMENI AND YPOGEGRAMMENI
aCAPITAL LETTER ALPHA WITH PSILI AND PROSGEGRAMMENI,eDASIA AND PROSGEGRAMMENI
ePSILI AND VARIA AND PROSGEGRAMMENI,eDASIA AND VARIA AND PROSGEGRAMMENI
ePSILI AND OXIA AND PROSGEGRAMMENI,eDASIA AND OXIA AND PROSGEGRAMMENI
ePSILI AND PERISPOMENI AND PROSGEGRAMMENI,eDASIA AND PERISPOMENI AND PROSGEGRAMMENI
aSMALL LETTER ETA WITH PSILI AND YPOGEGRAMMENI,eDASIA AND YPOGEGRAMMENI
ePSILI AND VARIA AND YPOGEGRAMMENI,eDASIA AND VARIA AND YPOGEGRAMMENI
ePSILI AND OXIA AND YPOGEGRAMMENI,eDASIA AND OXIA AND YPOGEGRAMMENI
ePSILI AND PERISPOMENI AND YPOGEGRAMMENI,eDASIA AND PERISPOMENI AND YPOGEGRAMMENI
aCAPITAL LETTER ETA WITH PSILI AND PROSGEGRAMMENI,eDASIA AND PROSGEGRAMMENI
ePSILI AND VARIA AND PROSGEGRAMMENI,eDASIA AND VARIA AND PROSGEGRAMMENI
ePSILI AND OXIA AND PROSGEGRAMMENI,eDASIA AND OXIA AND PROSGEGRAMMENI
ePSILI AND PERISPOMENI AND PROSGEGRAMMENI,eDASIA AND PERISPOMENI AND PROSGEGRAMMENI
aSMALL LETTER OMEGA WITH PSILI AND YPOGEGRAMMENI,eDASIA AND YPOGEGRAMMENI
ePSILI AND VARIA AND YPOGEGRAMMENI,eDASIA AND VARIA AND YPOGEGRAMMENI
ePSILI AND OXIA AND YPOGEGRAMMENI,eDASIA AND OXIA AND YPOGEGRAMMENI
ePSILI AND PERISPOMENI AND YPOGEGRAMMENI,eDASIA AND PERISPOMENI AND YPOGEGRAMMENI
aCAPITAL LETTER OMEGA WITH PSILI AND PROSGEGRAMMENI,eDASIA AND PROSGEGRAMMENI
ePSILI AND VARIA AND PROSGEGRAMMENI,eDASIA AND VARIA AND PROSGEGRAMMENI
ePSILI AND OXIA AND PROSGEGRAMMENI,eDASIA AND OXIA AND PROSGEGRAMMENI
ePSILI AND PERISPOMENI AND PROSGEGRAMMENI,eDASIA AND PERISPOMENI AND PROSGEGRAMMENI
aSMALL LETTER ALPHA WITH VRACHY,eMACRON,eVARIA AND YPOGEGRAMMENI,eYPOGEGRAMMENI
eOXIA AND YPOGEGRAMMENI,1FB6:ePERISPOMENI,fAND YPOGEGRAMMENI,aCAPITAL LETTER ALPHA WITH VRACHY
eMACRON,eVARIA,eOXIA,ePROSGEGRAMMENI,aKORONIS,aPROSGEGRAMMENI,aPSILI,aPERISPOMENI
aDIALYTIKA AND PERISPOMENI,aSMALL LETTER ETA WITH VARIA AND YPOGEGRAMMENI,eYPOGEGRAMMENI
eOXIA AND YPOGEGRAMMENI,1FC6:ePERISPOMENI,fAND YPOGEGRAMMENI,aCAPITAL LETTER EPSILON WITH VARIA
eOXIA,cETA WITH VARIA,eOXIA,ePROSGEGRAMMENI,aPSILI AND VARIA,cOXIA,cPERISPOMENI
aSMALL LETTER IOTA WITH VRACHY,eMACRON,eDIALYTIKA AND VARIA,gOXIA,1FD6:ePERISPOMENI
eDIALYTIKA AND PERISPOMENI,aCAPITAL LETTER IOTA WITH VRACHY,eMACRON,eVARIA,eOXIA
1FDD:aDASIA AND VARIA,cOXIA,cPERISPOMENI,aSMALL LETTER UPSILON WITH VRACHY,eMACRON
eDIALYTIKA AND VARIA,gOXIA,cRHO WITH PSILI,eDASIA,cUPSILON WITH PERISPOMENI
eDIALYTIKA AND PERISPOMENI,aCAPITAL LETTER UPSILON WITH VRACHY,eMACRON,eVARIA,eOXIA
cRHO WITH DASIA,aDIALYTIKA AND VARIA,cOXIA,aVARIA
1FF2:aSMALL LETTER OMEGA WITH VARIA AND YPOGEGRAMMENI,eYPOGEGRAMMENI,eOXIA AND YPOGEGRAMMENI
1FF6:ePERISPOMENI,fAND YPOGEGRAMMENI,aCAPITAL LETTER OMICRON WITH VARIA,eOXIA,cOMEGA WITH VARIA
eOXIA,ePROSGEGRAMMENI,aOXIA,aDASIA"

end RasterAlgebra.Text.CharacterName
