/-!
# Names from Linear B to Tamil Supplement

Unicode 14, U+10000 to U+11FFF: historic alphabets and numbers.
-/

namespace RasterAlgebra.Text.CharacterName

/-- Entries of a table of names. -/
def ancientScripts : String := "
10000:LINEAR B SYLLABLE B008 A,cB038 E,cB028 I,cB061 O,cB010 U,cB001 DA,cB045 DE,cB007 DI,cB014 DO
cB051 DU,cB057 JA,cB046 JE,1000D:cB036 JO,cB065 JU,cB077 KA,cB044 KE,cB067 KI,cB070 KO,cB081 KU
cB080 MA,cB013 ME,cB073 MI,cB015 MO,cB023 MU,cB006 NA,cB024 NE,cB030 NI,cB052 NO,cB055 NU,cB003 PA
cB072 PE,cB039 PI,cB011 PO,cB050 PU,cB016 QA,cB078 QE,cB021 QI,cB032 QO,10028:cB060 RA,cB027 RE
cB053 RI,cB002 RO,cB026 RU,cB031 SA,cB009 SE,cB041 SI,cB012 SO,cB058 SU,cB059 TA,cB004 TE,cB037 TI
cB005 TO,cB069 TU,cB054 WA,cB075 WE,cB040 WI,cB042 WO,1003C:cB017 ZA,cB074 ZE,1003F:cB020 ZO
cB025 A2,cB043 A3,cB085 AU,cB071 DWE,cB090 DWO,cB048 NWA,cB029 PU2,cB062 PTE,cB076 RA2,cB033 RA3
cB068 RO2,cB066 TA2,cB087 TWE,cB091 TWO,10050:bSYMBOL B018,cB019,cB022,cB034,cB047,cB049,cB056
cB063,cB064,cB079,cB082,cB083,cB086,cB089,10080:bIDEOGRAM B100 MAN,cB102 WOMAN,cB104 DEER
cB105 EQUID,cB105F MARE,cB105M STALLION,cB106F EWE,cB106M RAM,cB107F SHE-GOAT,cB107M HE-GOAT
cB108F SOW,cB108M BOAR,cB109F COW,cB109M BULL,cB120 WHEAT,cB121 BARLEY,cB122 OLIVE,cB123 SPICE
cB125 CYPERUS,bMONOGRAM B127 KAPO,cB128 KANAKO,bIDEOGRAM B130 OIL,cB131 WINE,cB132
bMONOGRAM B133 AREPA,cB135 MERI,bIDEOGRAM B140 BRONZE,cB141 GOLD,cB142,cB145 WOOL,cB146,cB150
cB151 HORN,cB152,cB153,cB154,bMONOGRAM B156 TURO2,bIDEOGRAM B157,cB158,cB159 CLOTH,cB160,cB161
cB162 GARMENT,cB163 ARMOUR,cB164,cB165,cB166,cB167,cB168,cB169,cB170,cB171,cB172,cB173 MONTH,cB174
cB176 TREE,cB177,cB178,cB179,cB180,cB181,cB182,cB183,cB184,cB185,cB189,cB190,cB191 HELMET
cB220 FOOTSTOOL,cB225 BATHTUB,cB230 SPEAR,cB231 ARROW,cB232,cB233 SWORD,cB234,cB236
cB240 WHEELED CHARIOT,cB241 CHARIOT,cB242 CHARIOT FRAME,cB243 WHEEL,cB245,cB246
bMONOGRAM B247 DIPTE,bIDEOGRAM B248,cB249,cB251,cB252,cB253,cB254 DART,cB255,cB256,cB257,cB258
cB259,cVESSEL B155,dB200,dB201,dB202,dB203,dB204,dB205,dB206,dB207,dB208,dB209,dB210,dB211,dB212
dB213,dB214,dB215,dB216,dB217,dB218,dB219,dB221,dB222,dB226,dB227,dB228,dB229,dB250,dB305
10100:AEGEAN WORD SEPARATOR LINE,cDOT,aCHECK MARK,10107:aNUMBER ONE,bTWO,bTHREE,bFOUR,bFIVE,bSIX
bSEVEN,bEIGHT,bNINE,bTEN,bTWENTY,bTHIRTY,bFORTY,bFIFTY,bSIXTY,bSEVENTY,bEIGHTY,bNINETY
bONE HUNDRED,bTWO HUNDRED,bTHREE HUNDRED,bFOUR HUNDRED,bFIVE HUNDRED,bSIX HUNDRED,bSEVEN HUNDRED
bEIGHT HUNDRED,bNINE HUNDRED,bONE THOUSAND,bTWO THOUSAND,bTHREE THOUSAND,bFOUR THOUSAND
bFIVE THOUSAND,bSIX THOUSAND,bSEVEN THOUSAND,bEIGHT THOUSAND,bNINE THOUSAND,bTEN THOUSAND
bTWENTY THOUSAND,bTHIRTY THOUSAND,bFORTY THOUSAND,bFIFTY THOUSAND,bSIXTY THOUSAND
bSEVENTY THOUSAND,bEIGHTY THOUSAND,bNINETY THOUSAND,10137:aWEIGHT BASE UNIT,bFIRST SUBUNIT
bSECOND SUBUNIT,bTHIRD SUBUNIT,bFOURTH SUBUNIT,aDRY MEASURE FIRST SUBUNIT
aLIQUID MEASURE FIRST SUBUNIT,aMEASURE SECOND SUBUNIT,bTHIRD SUBUNIT
GREEK ACROPHONIC ATTIC ONE QUARTER,dHALF,dDRACHMA,cFIVE,cFIFTY,cFIVE HUNDRED,dTHOUSAND
cFIFTY THOUSAND,cFIVE TALENTS,cTEN TALENTS,cFIFTY TALENTS,cONE HUNDRED TALENTS
cFIVE HUNDRED TALENTS,cONE THOUSAND TALENTS,cFIVE THOUSAND TALENTS,dSTATERS,cTEN STATERS
cFIFTY STATERS,cONE HUNDRED STATERS,cFIVE HUNDRED STATERS,cONE THOUSAND STATERS
cTEN THOUSAND STATERS,cFIFTY THOUSAND STATERS,cTEN MNAS,bHERAEUM ONE PLETHRON,bTHESPIAN ONE
bHERMIONIAN ONE,bEPIDAUREAN TWO,bTHESPIAN TWO,bCYRENAIC TWO DRACHMAS,bEPIDAUREAN TWO DRACHMAS
bTROEZENIAN FIVE,cTEN,dALTERNATE FORM,bHERMIONIAN TEN,bMESSENIAN TEN,bTHESPIAN TEN,cTHIRTY
bTROEZENIAN FIFTY,dALTERNATE FORM,bHERMIONIAN FIFTY,bTHESPIAN FIFTY,cONE HUNDRED,cTHREE HUNDRED
bEPIDAUREAN FIVE HUNDRED,bTROEZENIAN FIVE HUNDRED,bTHESPIAN FIVE HUNDRED,bCARYSTIAN FIVE HUNDRED
bNAXIAN FIVE HUNDRED,bTHESPIAN ONE THOUSAND,cFIVE THOUSAND,bDELPHIC FIVE MNAS,bSTRATIAN FIFTY MNAS
aONE HALF SIGN,dALTERNATE FORM,aTWO THIRDS SIGN,aTHREE QUARTERS SIGN,aYEAR SIGN,aTALENT SIGN
aDRACHMA SIGN,aOBOL SIGN,aTWO OBOLS SIGN,aTHREE OBOLS SIGN,aFOUR OBOLS SIGN,aFIVE OBOLS SIGN
aMETRETES SIGN,aKYATHOS BASE SIGN,aLITRA SIGN,aOUNKIA SIGN,aXESTES SIGN,aARTABE SIGN,aAROURA SIGN
aGRAMMA SIGN,aTRYBLION BASE SIGN,aZERO SIGN,aONE QUARTER SIGN,aSINUSOID SIGN,aINDICTION SIGN
NOMISMA SIGN,10190:ROMAN SEXTANS SIGN,aUNCIA SIGN,aSEMUNCIA SIGN,aSEXTULA SIGN
aDIMIDIA SEXTULA SIGN,aSILIQUA SIGN,aDENARIUS SIGN,aQUINARIUS SIGN,aSESTERTIUS SIGN
aDUPONDIUS SIGN,aAS SIGN,aCENTURIAL SIGN,ASCIA SYMBOL,101A0:GREEK SYMBOL TAU RHO
101D0:PHAISTOS DISC SIGN PEDESTRIAN,cPLUMED HEAD,cTATTOOED HEAD,cCAPTIVE,cCHILD,cWOMAN,cHELMET
cGAUNTLET,cTIARA,cARROW,cBOW,cSHIELD,cCLUB,cMANACLES,cMATTOCK,cSAW,cLID,cBOOMERANG
cCARPENTRY PLANE,cDOLIUM,cCOMB,cSLING,cCOLUMN,cBEEHIVE,cSHIP,cHORN,cHIDE,cBULLS LEG,cCAT,cRAM
cEAGLE,cDOVE,cTUNNY,cBEE,cPLANE TREE,cVINE,cPAPYRUS,cROSETTE,cLILY,cOX BACK,cFLUTE,cGRATER
cSTRAINER,cSMALL AXE,cWAVY BAND,cCOMBINING OBLIQUE STROKE,10280:LYCIAN LETTER A,bE,bB,bBH,bG,bD,bI
bW,bZ,bTH,bJ,bK,bQ,bL,bM,bN,bMM,bNN,bU,bP,bKK,bR,bS,bT,bTT,bAN,bEN,bH,bX,102A0:CARIAN LETTER A,bP2
bD,bL,bUUU,bR,bLD,bA2,bQ,bB,bM,bO,bD2,bT,bSH,bSH2,bS,bC-18,bU,bNN,bX,bN,bTT2,bP,bSS,bI,bE,bUUUU,bK
bK2,bND,bUU,bG,bG2,bST,bST2,bNG,bII,bC-39,bTT,bUUU2,bRR,bMB,bMB2,bMB3,bMB4,bLD2,bE2,bUUU3
102E0:COPTIC EPACT THOUSANDS MARK,bDIGIT ONE,cTWO,cTHREE,cFOUR,cFIVE,cSIX,cSEVEN,cEIGHT,cNINE
bNUMBER TEN,cTWENTY,cTHIRTY,cFORTY,cFIFTY,cSIXTY,cSEVENTY,cEIGHTY,cNINETY,cONE HUNDRED
cTWO HUNDRED,cTHREE HUNDRED,cFOUR HUNDRED,cFIVE HUNDRED,cSIX HUNDRED,cSEVEN HUNDRED,cEIGHT HUNDRED
cNINE HUNDRED,10300:OLD ITALIC LETTER A,cBE,cKE,cDE,cE,cVE,cZE,cHE,cTHE,cI,cKA,cEL,cEM,cEN,cESH,cO
cPE,cSHE,cKU,cER,cES,cTE,cU,cEKS,cPHE,cKHE,cEF,cERS,cCHE,cII,cUU,cESS,bNUMERAL ONE,cFIVE,cTEN
cFIFTY,1032D:bLETTER YE,cNORTHERN TSE,cSOUTHERN TSE,GOTHIC LETTER AHSA,bBAIRKAN,bGIBA,bDAGS
bAIHVUS,bQAIRTHRA,bIUJA,bHAGL,bTHIUTH,bEIS,bKUSMA,bLAGUS,bMANNA,bNAUTHS,bJER,bURUS,bPAIRTHRA
bNINETY,bRAIDA,bSAUIL,bTEIWS,bWINJA,bFAIHU,bIGGWS,bHWAIR,bOTHAL,bNINE HUNDRED
10350:OLD PERMIC LETTER AN,cBUR,cGAI,cDOI,cE,cZHOI,cDZHOI,cZATA,cDZITA,cI,cKOKE,cLEI,cMENOE,cNENOE
cVOOI,cPEEI,cREI,cSII,cTAI,cU,cCHERY,cSHOOI,cSHCHOOI,cYRY,cYERU,cO,cOO,cEF,cHA,cTSIU,cVER,cYER
cYERI,cYAT,cIE,cYU,cYA,cIA,COMBINING OLD PERMIC LETTER AN,dDOI,dZATA,dNENOE,dSII
10380:UGARITIC LETTER ALPA,bBETA,bGAMLA,bKHA,bDELTA,bHO,bWO,bZETA,bHOTA,bTET,bYOD,bKAF,bSHIN
bLAMDA,bMEM,bDHAL,bNUN,bZU,bSAMKA,bAIN,bPU,bSADE,bQOPA,bRASHA,bTHANNA,bGHAIN,bTO,bI,bU,bSSU
1039F:aWORD DIVIDER,OLD PERSIAN SIGN A,cI,cU,cKA,cKU,cGA,cGU,cXA,cCA,cJA,cJI,cTA,cTU,cDA,cDI,cDU
cTHA,cPA,cBA,cFA,cNA,cNU,cMA,cMI,cMU,cYA,cVA,cVI,cRA,cRU,cLA,cSA,cZA,cSHA,cSSA,cHA
103C8:cAURAMAZDAA,cAURAMAZDAA-2,cAURAMAZDAAHA,cXSHAAYATHIYA,cDAHYAAUSH,cDAHYAAUSH-2,cBAGA,cBUUMISH
bWORD DIVIDER,bNUMBER ONE,cTWO,cTEN,cTWENTY,cHUNDRED,10400:DESERET CAPITAL LETTER LONG I,dE,dA,dAH
dO,dOO,cSHORT I,dE,dA,dAH,dO,dOO,cAY,cOW,cWU,cYEE,cH,cPEE,cBEE,cTEE,cDEE,cCHEE,cJEE,cKAY,cGAY,cEF
cVEE,cETH,cTHEE,cES,cZEE,cESH,cZHEE,cER,cEL,cEM,cEN,cENG,cOI,cEW,aSMALL LETTER LONG I,dE,dA,dAH,dO
dOO,cSHORT I,dE,dA,dAH,dO,dOO,cAY,cOW,cWU,cYEE,cH,cPEE,cBEE,cTEE,cDEE,cCHEE,cJEE,cKAY,cGAY,cEF
cVEE,cETH,cTHEE,cES,cZEE,cESH,cZHEE,cER,cEL,cEM,cEN,cENG,cOI,cEW,SHAVIAN LETTER PEEP,bTOT,bKICK
bFEE,bTHIGH,bSO,bSURE,bCHURCH,bYEA,bHUNG,bBIB,bDEAD,bGAG,bVOW,bTHEY,bZOO,bMEASURE,bJUDGE,bWOE
bHA-HA,bLOLL,bMIME,bIF,bEGG,bASH,bADO,bON,bWOOL,bOUT,bAH,bROAR,bNUN,bEAT,bAGE,bICE,bUP,bOAK,bOOZE
bOIL,bAWE,bARE,bOR,bAIR,bERR,bARRAY,bEAR,bIAN,bYEW,OSMANYA LETTER ALEF,bBA,bTA,bJA,bXA,bKHA,bDEEL
bRA,bSA,bSHIIN,bDHA,bCAYN,bGA,bFA,bQAAF,bKAAF,bLAAN,bMIIN,bNUUN,bWAW,bHA,bYA,bA,bE,bI,bO,bU,bAA
bEE,bOO,104A0:aDIGIT ZERO,bONE,bTWO,bTHREE,bFOUR,bFIVE,bSIX,bSEVEN,bEIGHT,bNINE
104B0:OSAGE CAPITAL LETTER A,cAI,cAIN,cAH,cBRA,cCHA,cEHCHA,cE,cEIN,cHA,cHYA,cI,cKA,cEHKA,cKYA,cLA
cMA,cNA,cO,cOIN,cPA,cEHPA,cSA,cSHA,cTA,cEHTA,cTSA,cEHTSA,cTSHA,cDHA,cU,cWA,cKHA,cGHA,cZA,cZHA
104D8:aSMALL LETTER A,cAI,cAIN,cAH,cBRA,cCHA,cEHCHA,cE,cEIN,cHA,cHYA,cI,cKA,cEHKA,cKYA,cLA,cMA,cNA
cO,cOIN,cPA,cEHPA,cSA,cSHA,cTA,cEHTA,cTSA,cEHTSA,cTSHA,cDHA,cU,cWA,cKHA,cGHA,cZA,cZHA
10500:ELBASAN LETTER A,bBE,bCE,bCHE,bDE,bNDE,bDHE,bEI,bE,bFE,bGE,bGJE,bHE,bI,bJE,bKE,bLE,bLLE,bME
bNE,bNA,bNJE,bO,bPE,bQE,bRE,bRRE,bSE,bSHE,bTE,bTHE,bU,bVE,bXE,bY,bZE,bZHE,bGHE,bGHAMMA,bKHE
10530:CAUCASIAN ALBANIAN LETTER ALT,cBET,cGIM,cDAT,cEB,cZARL,cEYN,cZHIL,cTAS,cCHA,cYOWD,cZHA,cIRB
cSHA,cLAN,cINYA,cXEYN,cDYAN,cCAR,cJHOX,cKAR,cLYIT,cHEYT,cQAY,cAOR,cCHOY,cCHI,cCYAY,cMAQ,cQAR,cNOWC
cDZYAY,cSHAK,cJAYN,cON,cTYAY,cFAM,cDZAY,cCHAT,cPEN,cGHEYS,cRAT,cSEYK,cVEYZ,cTIWR,cSHOY,cIWN,cCYAW
cCAYN,cYAYD,cPIWR,cKIW,1056F:bCITATION MARK,VITHKUQI CAPITAL LETTER A,cBBE,cBE,cCE,cCHE,cDE,cDHE
cEI,cE,cFE,cGA,1057C:cHA,cHHA,cI,cIJE,cJE,cKA,cLA,cLLA,cME,cNE,cNJE,cO,cPE,cQA,cRE,1058C:cSE,cSHE
cTE,cTHE,cU,cVE,cXE,10594:cY,cZE,10597:aSMALL LETTER A,cBBE,cBE,cCE,cCHE,cDE,cDHE,cEI,cE,cFE,cGA
105A3:cHA,cHHA,cI,cIJE,cJE,cKA,cLA,cLLA,cME,cNE,cNJE,cO,cPE,cQA,cRE,105B3:cSE,cSHE,cTE,cTHE,cU,cVE
cXE,105BB:cY,cZE,10600:LINEAR A SIGN AB001,cAB002,cAB003,cAB004,cAB005,cAB006,cAB007,cAB008,cAB009
cAB010,cAB011,cAB013,cAB016,cAB017,cAB020,cAB021,cAB021F,cAB021M,cAB022,cAB022F,cAB022M,cAB023
cAB023M,cAB024,cAB026,cAB027,cAB028,cA028B,cAB029,cAB030,cAB031,cAB034,cAB037,cAB038,cAB039,cAB040
cAB041,cAB044,cAB045,cAB046,cAB047,cAB048,cAB049,cAB050,cAB051,cAB053,cAB054,cAB055,cAB056,cAB057
cAB058,cAB059,cAB060,cAB061,cAB065,cAB066,cAB067,cAB069,cAB070,cAB073,cAB074,cAB076,cAB077,cAB078
cAB079,cAB080,cAB081,cAB082,cAB085,cAB086,cAB087,cA100-102,cAB118,cAB120,cA120B,cAB122,cAB123
cAB131A,cAB131B,cA131C,cAB164,cAB171,cAB180,cAB188,cAB191,cA301,cA302,cA303,cA304,cA305,cA306
cA307,cA308,cA309A,cA309B,cA309C,cA310,cA311,cA312,cA313A,cA313B,cA313C,cA314,cA315,cA316,cA317
cA318,cA319,cA320,cA321,cA322,cA323,cA324,cA325,cA326,cA327,cA328,cA329,cA330,cA331,cA332,cA333
cA334,cA335,cA336,cA337,cA338,cA339,cA340,cA341,cA342,cA343,cA344,cA345,cA346,cA347,cA348,cA349
cA350,cA351,cA352,cA353,cA354,cA355,cA356,cA357,cA358,cA359,cA360,cA361,cA362,cA363,cA364,cA365
cA366,cA367,cA368,cA369,cA370,cA371,cA400-VAS,cA401-VAS,cA402-VAS,cA403-VAS,cA404-VAS,cA405-VAS
cA406-VAS,cA407-VAS,cA408-VAS,cA409-VAS,cA410-VAS,cA411-VAS,cA412-VAS,cA413-VAS,cA414-VAS
cA415-VAS,cA416-VAS,cA417-VAS,cA418-VAS,cA501,cA502,cA503,cA504,cA505,cA506,cA508,cA509,cA510
cA511,cA512,cA513,cA515,cA516,cA520,cA521,cA523,cA524,cA525,cA526,cA527,cA528,cA529,cA530,cA531
cA532,cA534,cA535,cA536,cA537,cA538,cA539,cA540,cA541,cA542,cA545,cA547,cA548,cA549,cA550,cA551
cA552,cA553,cA554,cA555,cA556,cA557,cA559,cA563,cA564,cA565,cA566,cA568,cA569,cA570,cA571,cA572
cA573,cA574,cA575,cA576,cA577,cA578,cA579,cA580,cA581,cA582,cA583,cA584,cA585,cA586,cA587,cA588
cA589,cA591,cA592,cA594,cA595,cA596,cA598,cA600,cA601,cA602,cA603,cA604,cA606,cA608,cA609,cA610
cA611,cA612,cA613,cA614,cA615,cA616,cA617,cA618,cA619,cA620,cA621,cA622,cA623,cA624,cA626,cA627
cA628,cA629,cA634,cA637,cA638,cA640,cA642,cA643,cA644,cA645,cA646,cA648,cA649,cA651,cA652,cA653
cA654,cA655,cA656,cA657,cA658,cA659,cA660,cA661,cA662,cA663,cA664,10740:cA701 A,cA702 B,cA703 D
cA704 E,cA705 F,cA706 H,cA707 J,cA708 K,cA709 L,cA709-2 L2,cA709-3 L3,cA709-4 L4,cA709-6 L6
cA710 W,cA711 X,cA712 Y,cA713 OMEGA,cA714 ABB,cA715 BB,cA717 DD,cA726 EYYY,cA732 JE,10760:cA800
cA801,cA802,cA803,cA804,cA805,cA806,cA807,10780:MODIFIER LETTER SMALL CAPITAL AA
bSUPERSCRIPT TRIANGULAR COLON,cHALF TRIANGULAR COLON,bSMALL AE,cCAPITAL B,cB WITH HOOK
10787:cDZ DIGRAPH,eWITH RETROFLEX HOOK,fCURL,cDEZH DIGRAPH,cD WITH TAIL,eHOOK,fAND TAIL
cREVERSED E,cCLOSED REVERSED OPEN E,cFENG DIGRAPH,cRAMS HORN,cCAPITAL G,cG WITH HOOK
cCAPITAL G WITH HOOK,cH WITH STROKE,cCAPITAL H,cHENG WITH HOOK,cDOTLESS J WITH STROKE AND HOOK
cLS DIGRAPH,cLZ DIGRAPH,cL WITH BELT,cCAPITAL L WITH BELT,cL WITH RETROFLEX HOOK AND BELT,cLEZH
dWITH RETROFLEX HOOK,cTURNED Y,eWITH BELT,cO WITH STROKE,cCAPITAL OE,cCLOSED OMEGA,cQ
cTURNED R WITH LONG LEG,hAND RETROFLEX HOOK,cR WITH TAIL,eFISHHOOK,cCAPITAL R
cTC DIGRAPH WITH CURL,cTS DIGRAPH,eWITH RETROFLEX HOOK,cTESH DIGRAPH,cT WITH RETROFLEX HOOK
cV WITH RIGHT HOOK,107B2:cCAPITAL Y,bGLOTTAL STOP WITH STROKE,bREVERSED GLOTTAL STOP WITH STROKE
bBILABIAL CLICK,bDENTAL CLICK,bLATERAL CLICK,bALVEOLAR CLICK,bRETROFLEX CLICK WITH RETROFLEX HOOK
bSMALL S WITH CURL,10800:CYPRIOT SYLLABLE A,bE,bI,bO,bU,bJA,10808:bJO,1080A:bKA,bKE,bKI,bKO,bKU
bLA,bLE,bLI,bLO,bLU,bMA,bME,bMI,bMO,bMU,bNA,bNE,bNI,bNO,bNU,bPA,bPE,bPI,bPO,bPU,bRA,bRE,bRI,bRO
bRU,bSA,bSE,bSI,bSO,bSU,bTA,bTE,bTI,bTO,bTU,bWA,bWE,bWI,bWO,10837:bXA,bXE,1083C:bZA,1083F:bZO
IMPERIAL ARAMAIC LETTER ALEPH,cBETH,cGIMEL,cDALETH,cHE,cWAW,cZAYIN,cHETH,cTETH,cYODH,cKAPH,cLAMEDH
cMEM,cNUN,cSAMEKH,cAYIN,cPE,cSADHE,cQOPH,cRESH,cSHIN,cTAW,10857:bSECTION SIGN,bNUMBER ONE,cTWO
cTHREE,cTEN,cTWENTY,cONE HUNDRED,dTHOUSAND,cTEN THOUSAND,PALMYRENE LETTER ALEPH,bBETH,bGIMEL
bDALETH,bHE,bWAW,bZAYIN,bHETH,bTETH,bYODH,bKAPH,bLAMEDH,bMEM,bFINAL NUN,bNUN,bSAMEKH,bAYIN,bPE
bSADHE,bQOPH,bRESH,bSHIN,bTAW,aLEFT-POINTING FLEURON,aRIGHT-POINTING FLEURON,aNUMBER ONE,bTWO
bTHREE,bFOUR,bFIVE,bTEN,bTWENTY,NABATAEAN LETTER FINAL ALEPH,bALEPH,bFINAL BETH,bBETH,bGIMEL
bDALETH,bFINAL HE,bHE,bWAW,bZAYIN,bHETH,bTETH,bFINAL YODH,bYODH,bFINAL KAPH,bKAPH,bFINAL LAMEDH
bLAMEDH,bFINAL MEM,bMEM,bFINAL NUN,bNUN,bSAMEKH,bAYIN,bPE,bSADHE,bQOPH,bRESH,bFINAL SHIN,bSHIN
bTAW,108A7:aNUMBER ONE,bTWO,bTHREE,bFOUR,aCRUCIFORM NUMBER FOUR,aNUMBER FIVE,bTEN,bTWENTY
bONE HUNDRED,108E0:HATRAN LETTER ALEPH,bBETH,bGIMEL,bDALETH-RESH,bHE,bWAW,bZAYN,bHETH,bTETH,bYODH
bKAPH,bLAMEDH,bMEM,bNUN,bSAMEKH,bAYN,bPE,bSADHE,bQOPH,108F4:bSHIN,bTAW,108FB:aNUMBER ONE,bFIVE
bTEN,bTWENTY,bONE HUNDRED,PHOENICIAN LETTER ALF,bBET,bGAML,bDELT,bHE,bWAU,bZAI,bHET,bTET,bYOD,bKAF
bLAMD,bMEM,bNUN,bSEMK,bAIN,bPE,bSADE,bQOF,bROSH,bSHIN,bTAU,aNUMBER ONE,bTEN,bTWENTY,bONE HUNDRED
bTWO,bTHREE,1091F:aWORD SEPARATOR,LYDIAN LETTER A,bB,bG,bD,bE,bV,bI,bY,bK,bL,bM,bN,bO,bR,bSS,bT,bU
bF,bQ,bS,bTT,bAN,bEN,bLY,bNN,bC,1093F:aTRIANGULAR MARK,10980:MEROITIC HIEROGLYPHIC LETTER A,cE,cI
cO,cYA,cWA,cBA,cBA-2,cPA,cMA,cNA,cNA-2,cNE,cNE-2,cRA,cRA-2,cLA,cKHA,cHHA,cSA,cSA-2,cSE,cKA,cQA,cTA
cTA-2,cTE,cTE-2,cTO,cDA,bSYMBOL VIDJ,cVIDJ-2,aCURSIVE LETTER A,cE,cI,cO,cYA,cWA,cBA,cPA,cMA,cNA
cNE,cRA,cLA,cKHA,cHHA,cSA,cARCHAIC SA,cSE,cKA,cQA,cTA,cTE,cTO,cDA,109BC:bFRACTION ELEVEN TWELFTHS
cONE HALF,bLOGOGRAM RMT,cIMN,bNUMBER ONE,cTWO,cTHREE,cFOUR,cFIVE,cSIX,cSEVEN,cEIGHT,cNINE,cTEN
cTWENTY,cTHIRTY,cFORTY,cFIFTY,cSIXTY,cSEVENTY,109D2:cONE HUNDRED,cTWO HUNDRED,cTHREE HUNDRED
cFOUR HUNDRED,cFIVE HUNDRED,cSIX HUNDRED,cSEVEN HUNDRED,cEIGHT HUNDRED,cNINE HUNDRED,cONE THOUSAND
cTWO THOUSAND,cTHREE THOUSAND,cFOUR THOUSAND,cFIVE THOUSAND,cSIX THOUSAND,cSEVEN THOUSAND
cEIGHT THOUSAND,cNINE THOUSAND,cTEN THOUSAND,cTWENTY THOUSAND,cTHIRTY THOUSAND,cFORTY THOUSAND
cFIFTY THOUSAND,cSIXTY THOUSAND,cSEVENTY THOUSAND,cEIGHTY THOUSAND,cNINETY THOUSAND
cONE HUNDRED THOUSAND,cTWO HUNDRED THOUSAND,cTHREE HUNDRED THOUSAND,cFOUR HUNDRED THOUSAND
cFIVE HUNDRED THOUSAND,cSIX HUNDRED THOUSAND,cSEVEN HUNDRED THOUSAND,cEIGHT HUNDRED THOUSAND
cNINE HUNDRED THOUSAND,bFRACTION ONE TWELFTH,cTWO TWELFTHS,cTHREE TWELFTHS,cFOUR TWELFTHS
cFIVE TWELFTHS,cSIX TWELFTHS,cSEVEN TWELFTHS,cEIGHT TWELFTHS,cNINE TWELFTHS,cTEN TWELFTHS
KHAROSHTHI LETTER A,aVOWEL SIGN I,cU,cVOCALIC R,10A05:cE,cO,10A0C:bLENGTH MARK
aSIGN DOUBLE RING BELOW,bANUSVARA,bVISARGA,aLETTER KA,bKHA,bGA,bGHA,10A15:bCA,bCHA,bJA,10A19:bNYA
bTTA,bTTHA,bDDA,bDDHA,bNNA,bTA,bTHA,bDA,bDHA,bNA,bPA,bPHA,bBA,bBHA,bMA,bYA,bRA,bLA,bVA,bSHA,bSSA
bSA,bZA,bHA,bKKA,bTTTHA,bTTTA,bVHA,10A38:aSIGN BAR ABOVE,bCAUDA,bDOT BELOW,10A3F:aVIRAMA
aDIGIT ONE,bTWO,bTHREE,bFOUR,aNUMBER TEN,bTWENTY,bONE HUNDRED,cTHOUSAND,aFRACTION ONE HALF
10A50:aPUNCTUATION DOT,bSMALL CIRCLE,bCIRCLE,bCRESCENT BAR,bMANGALAM,bLOTUS,bDANDA,bDOUBLE DANDA
bLINES,10A60:OLD SOUTH ARABIAN LETTER HE,dLAMEDH,dHETH,dMEM,dQOPH,dWAW,dSHIN,dRESH,dBETH,dTAW,dSAT
dKAPH,dNUN,dKHETH,dSADHE,dSAMEKH,dFE,dALEF,dAYN,dDHADHE,dGIMEL,dDALETH,dGHAYN,dTETH,dZAYN,dDHALETH
dYODH,dTHAW,dTHETH,cNUMBER ONE,dFIFTY,cNUMERIC INDICATOR,aNORTH ARABIAN LETTER HEH,dLAM,dHAH,dMEEM
dQAF,dWAW,dES-2,dREH,dBEH,dTEH,dES-1,dKAF,dNOON,dKHAH,dSAD,dES-3,dFEH,dALEF,dAIN,dDAD,dGEEM,dDAL
dGHAIN,dTAH,dZAIN,dTHAL,dYEH,dTHEH,dZAH,cNUMBER ONE,dTEN,dTWENTY,10AC0:MANICHAEAN LETTER ALEPH
bBETH,bBHETH,bGIMEL,bGHIMEL,bDALETH,bHE,bWAW,aSIGN UD,aLETTER ZAYIN,bZHAYIN,bJAYIN,bJHAYIN,bHETH
bTETH,bYODH,bKAPH,bXAPH,bKHAPH,bLAMEDH,bDHAMEDH,bTHAMEDH,bMEM,bNUN,bSAMEKH,bAYIN,bAAYIN,bPE,bFE
bSADHE,bQOPH,bXOPH,bQHOPH,bRESH,bSHIN,bSSHIN,bTAW,aABBREVIATION MARK ABOVE,cBELOW
10AEB:aNUMBER ONE,bFIVE,bTEN,bTWENTY,bONE HUNDRED,aPUNCTUATION STAR,bFLEURON
bDOUBLE DOT WITHIN DOT,bDOT WITHIN DOT,c,bTWO DOTS,bLINE FILLER,10B00:AVESTAN LETTER A,bAA,bAO
bAAO,bAN,bAAN,bAE,bAEE,bE,bEE,bO,bOO,bI,bII,bU,bUU,bKE,bXE,bXYE,bXVE,bGE,bGGE,bGHE,bCE,bJE,bTE
bTHE,bDE,bDHE,bTTE,bPE,bFE,bBE,bBHE,bNGE,bNGYE,bNGVE,bNE,bNYE,bNNE,bME,bHME,bYYE,bYE,bVE,bRE,bLE
bSE,bZE,bSHE,bZHE,bSHYE,bSSHE,bHE,10B39:aABBREVIATION MARK,TINY TWO DOTS OVER ONE DOT PUNCTUATION
SMALL TWO DOTS OVER ONE DOT PUNCTUATION,LARGE TWO DOTS OVER ONE DOT PUNCTUATION
aONE DOT OVER TWO DOTS PUNCTUATION,aTWO RINGS OVER ONE RING PUNCTUATION
aONE RING OVER TWO RINGS PUNCTUATION,INSCRIPTIONAL PARTHIAN LETTER ALEPH,cBETH,cGIMEL,cDALETH,cHE
cWAW,cZAYIN,cHETH,cTETH,cYODH,cKAPH,cLAMEDH,cMEM,cNUN,cSAMEKH,cAYIN,cPE,cSADHE,cQOPH,cRESH,cSHIN
cTAW,10B58:bNUMBER ONE,cTWO,cTHREE,cFOUR,cTEN,cTWENTY,cONE HUNDRED,dTHOUSAND,aPAHLAVI LETTER ALEPH
cBETH,cGIMEL,cDALETH,cHE,cWAW-AYIN-RESH,cZAYIN,cHETH,cTETH,cYODH,cKAPH,cLAMEDH,cMEM-QOPH,cNUN
cSAMEKH,cPE,cSADHE,cSHIN,cTAW,10B78:bNUMBER ONE,cTWO,cTHREE,cFOUR,cTEN,cTWENTY,cONE HUNDRED
dTHOUSAND,PSALTER PAHLAVI LETTER ALEPH,cBETH,cGIMEL,cDALETH,cHE,cWAW-AYIN-RESH,cZAYIN,cHETH,cYODH
cKAPH,cLAMEDH,cMEM-QOPH,cNUN,cSAMEKH,cPE,cSADHE,cSHIN,cTAW,10B99:bSECTION MARK
bTURNED SECTION MARK,bFOUR DOTS WITH CROSS,eDOT,10BA9:bNUMBER ONE,cTWO,cTHREE,cFOUR,cTEN,cTWENTY
cONE HUNDRED,10C00:OLD TURKIC LETTER ORKHON A,cYENISEI A,dAE,cORKHON I,cYENISEI I,dE,cORKHON O,dOE
cYENISEI OE,cORKHON AB,cYENISEI AB,cORKHON AEB,cYENISEI AEB,cORKHON AG,cYENISEI AG,cORKHON AEG
cYENISEI AEG,cORKHON AD,cYENISEI AD,cORKHON AED,dEZ,cYENISEI EZ,cORKHON AY,cYENISEI AY,cORKHON AEY
cYENISEI AEY,cORKHON AEK,cYENISEI AEK,cORKHON OEK,cYENISEI OEK,cORKHON AL,cYENISEI AL,cORKHON AEL
dELT,dEM,dAN,dAEN,cYENISEI AEN,cORKHON ENT,cYENISEI ENT,cORKHON ENC,cYENISEI ENC,cORKHON ENY
cYENISEI ENY,dANG,cORKHON ENG,cYENISEI AENG,cORKHON EP,dOP,dIC,dEC,cYENISEI EC,cORKHON AQ
cYENISEI AQ,cORKHON IQ,cYENISEI IQ,cORKHON OQ,cYENISEI OQ,cORKHON AR,cYENISEI AR,cORKHON AER,dAS
dAES,dASH,cYENISEI ASH,cORKHON ESH,cYENISEI ESH,cORKHON AT,cYENISEI AT,cORKHON AET,cYENISEI AET
cORKHON OT,dBASH,10C80:aHUNGARIAN CAPITAL LETTER A,dAA,dEB,dAMB,dEC,dENC,dECS,dED,dAND,dE,dCLOSE E
dEE,dEF,dEG,dEGY,dEH,dI,dII,dEJ,dEK,dAK,dUNK,dEL,dELY,dEM,dEN,dENY,dO,dOO,dNIKOLSBURG OE
dRUDIMENTA OE,dOEE,dEP,dEMP,dER,dSHORT ER,dES,dESZ,dET,dENT,dETY,dECH,dU,dUU,dNIKOLSBURG UE
dRUDIMENTA UE,dEV,dEZ,dEZS,dENT-SHAPED SIGN,dUS,10CC0:bSMALL LETTER A,dAA,dEB,dAMB,dEC,dENC,dECS
dED,dAND,dE,dCLOSE E,dEE,dEF,dEG,dEGY,dEH,dI,dII,dEJ,dEK,dAK,dUNK,dEL,dELY,dEM,dEN,dENY,dO,dOO
dNIKOLSBURG OE,dRUDIMENTA OE,dOEE,dEP,dEMP,dER,dSHORT ER,dES,dESZ,dET,dENT,dETY,dECH,dU,dUU
dNIKOLSBURG UE,dRUDIMENTA UE,dEV,dEZ,dEZS,dENT-SHAPED SIGN,dUS,10CFA:bNUMBER ONE,cFIVE,cTEN,cFIFTY
cONE HUNDRED,dTHOUSAND,HANIFI ROHINGYA LETTER A,cBA,cPA,cTA,cTTA,cJA,cCA,cHA,cKHA,cFA,cDA,cDDA,cRA
cRRA,cZA,cSA,cSHA,cKA,cGA,cLA,cMA,cNA,cWA,cKINNA WA,cYA,cKINNA YA,cNGA,cNYA,cVA,bVOWEL A,cI,cU,cE
cO,bMARK SAKIN,cNA KHONNA,bSIGN HARBAHAY,cTAHALA,cTANA,cTASSI,10D30:bDIGIT ZERO,cONE,cTWO,cTHREE
cFOUR,cFIVE,cSIX,cSEVEN,cEIGHT,cNINE,10E60:RUMI DIGIT ONE,bTWO,bTHREE,bFOUR,bFIVE,bSIX,bSEVEN
bEIGHT,bNINE,aNUMBER TEN,bTWENTY,bTHIRTY,bFORTY,bFIFTY,bSIXTY,bSEVENTY,bEIGHTY,bNINETY
bONE HUNDRED,bTWO HUNDRED,bTHREE HUNDRED,bFOUR HUNDRED,bFIVE HUNDRED,bSIX HUNDRED,bSEVEN HUNDRED
bEIGHT HUNDRED,bNINE HUNDRED,aFRACTION ONE HALF,cQUARTER,cTHIRD,bTWO THIRDS
10E80:YEZIDI LETTER ELIF,bBE,bPE,bPHE,bTHE,bSE,bCIM,bCHIM,bCHHIM,bHHA,bXA,bDAL,bZAL,bRA,bRHA,bZA
bJA,bSIN,bSHIN,bSAD,bDAD,bTA,bZE,bEYN,bXHEYN,bFA,bVA,cALTERNATE FORM,bQAF,bKAF,bKHAF,bGAF,bLAM
bMIM,bNUN,bUM,bWAW,bOW,bEW,bHAY,bYOT,bET,10EAB:aCOMBINING HAMZA MARK,bMADDA MARK,aHYPHENATION MARK
10EB0:aLETTER LAM WITH DOT ABOVE,bYOT WITH CIRCUMFLEX ABOVE,10F00:OLD SOGDIAN LETTER ALEPH
cFINAL ALEPH,cBETH,cFINAL BETH,cGIMEL,cHE,cFINAL HE,cWAW,cZAYIN,cHETH,cYODH,cKAPH,cLAMEDH,cMEM
cNUN,cFINAL NUN,eWITH VERTICAL TAIL,cSAMEKH,cAYIN,cALTERNATE AYIN,cPE,cSADHE,cFINAL SADHE
eWITH VERTICAL TAIL,cRESH-AYIN-DALETH,cSHIN,cTAW,cFINAL TAW,eWITH VERTICAL TAIL,bNUMBER ONE,cTWO
cTHREE,cFOUR,cFIVE,cTEN,cTWENTY,cTHIRTY,cONE HUNDRED,bFRACTION ONE HALF,bLIGATURE AYIN-DALETH
10F30:SOGDIAN LETTER ALEPH,bBETH,bGIMEL,bHE,bWAW,bZAYIN,bHETH,bYODH,bKAPH,bLAMEDH,bMEM,bNUN
bSAMEKH,bAYIN,bPE,bSADHE,bRESH-AYIN,bSHIN,bTAW,bFETH,bLESH,aINDEPENDENT SHIN,aCOMBINING DOT BELOW
bTWO DOTS BELOW,bDOT ABOVE,bTWO DOTS ABOVE,bCURVE ABOVE,cBELOW,bHOOK ABOVE,cBELOW,bLONG HOOK BELOW
bRESH BELOW,bSTROKE BELOW,aNUMBER ONE,bTEN,bTWENTY,bONE HUNDRED,aPUNCTUATION TWO VERTICAL BARS
eWITH DOTS,bCIRCLE WITH DOT,bTWO CIRCLES WITH DOTS,bHALF CIRCLE WITH DOT
10F70:OLD UYGHUR LETTER ALEPH,cBETH,cGIMEL-HETH,cWAW,cZAYIN,cFINAL HETH,cYODH,cKAPH,cLAMEDH,cMEM
cNUN,cSAMEKH,cPE,cSADHE,cRESH,cSHIN,cTAW,cLESH,bCOMBINING DOT ABOVE,dBELOW,cTWO DOTS ABOVE,eBELOW
bPUNCTUATION BAR,cTWO BARS,dDOTS,cFOUR DOTS,10FB0:CHORASMIAN LETTER ALEPH,bSMALL ALEPH,bBETH
bGIMEL,bDALETH,bHE,bWAW,bCURLED WAW,bZAYIN,bHETH,bYODH,bKAPH,bLAMEDH,bMEM,bNUN,bSAMEKH,bAYIN,bPE
bRESH,bSHIN,bTAW,aNUMBER ONE,bTWO,bTHREE,bFOUR,bTEN,bTWENTY,bONE HUNDRED
10FE0:ELYMAIC LETTER ALEPH,bBETH,bGIMEL,bDALETH,bHE,bWAW,bZAYIN,bHETH,bTETH,bYODH,bKAPH,bLAMEDH
bMEM,bNUN,bSAMEKH,bAYIN,bPE,bSADHE,bQOPH,bRESH,bSHIN,bTAW,aLIGATURE ZAYIN-YODH
11000:BRAHMI SIGN CANDRABINDU,bANUSVARA,bVISARGA,bJIHVAMULIYA,bUPADHMANIYA,aLETTER A,bAA,bI,bII,bU
bUU,bVOCALIC R,cRR,cL,cLL,bE,bAI,bO,bAU,bKA,bKHA,bGA,bGHA,bNGA,bCA,bCHA,bJA,bJHA,bNYA,bTTA,bTTHA
bDDA,bDDHA,bNNA,bTA,bTHA,bDA,bDHA,bNA,bPA,bPHA,bBA,bBHA,bMA,bYA,bRA,bLA,bVA,bSHA,bSSA,bSA,bHA,bLLA
bOLD TAMIL LLLA,dRRA,dNNNA,aVOWEL SIGN AA,cBHATTIPROLU AA,cI,cII,cU,cUU,cVOCALIC R,dRR,dL,dLL,cE
cAI,cO,cAU,aVIRAMA,aDANDA,aDOUBLE DANDA,aPUNCTUATION DOT,bDOUBLE DOT,bLINE,bCRESCENT BAR,bLOTUS
11052:aNUMBER ONE,bTWO,bTHREE,bFOUR,bFIVE,bSIX,bSEVEN,bEIGHT,bNINE,bTEN,bTWENTY,bTHIRTY,bFORTY
bFIFTY,bSIXTY,bSEVENTY,bEIGHTY,bNINETY,bONE HUNDRED,cTHOUSAND,aDIGIT ZERO,bONE,bTWO,bTHREE,bFOUR
bFIVE,bSIX,bSEVEN,bEIGHT,bNINE,aSIGN OLD TAMIL VIRAMA,aLETTER OLD TAMIL SHORT E,eO
aVOWEL SIGN OLD TAMIL SHORT E,fO,aLETTER OLD TAMIL LLA,1107F:aNUMBER JOINER
KAITHI SIGN CANDRABINDU,bANUSVARA,bVISARGA,aLETTER A,bAA,bI,bII,bU,bUU,bE,bAI,bO,bAU,bKA,bKHA,bGA
bGHA,bNGA,bCA,bCHA,bJA,bJHA,bNYA,bTTA,bTTHA,bDDA,bDDDHA,bDDHA,bRHA,bNNA,bTA,bTHA,bDA,bDHA,bNA,bPA
bPHA,bBA,bBHA,bMA,bYA,bRA,bLA,bVA,bSHA,bSSA,bSA,bHA,aVOWEL SIGN AA,cI,cII,cU,cUU,cE,cAI,cO,cAU
aSIGN VIRAMA,bNUKTA,aABBREVIATION SIGN,aENUMERATION SIGN,aNUMBER SIGN,aSECTION MARK
aDOUBLE SECTION MARK,aDANDA,aDOUBLE DANDA,aVOWEL SIGN VOCALIC R,110CD:aNUMBER SIGN ABOVE
110D0:SORA SOMPENG LETTER SAH,cTAH,cBAH,cCAH,cDAH,cGAH,cMAH,cNGAH,cLAH,cNAH,cVAH,cPAH,cYAH,cRAH
cHAH,cKAH,cJAH,cNYAH,cAH,cEEH,cIH,cUH,cOH,cEH,cMAE,110F0:bDIGIT ZERO,cONE,cTWO,cTHREE,cFOUR,cFIVE
cSIX,cSEVEN,cEIGHT,cNINE,11100:CHAKMA SIGN CANDRABINDU,bANUSVARA,bVISARGA,aLETTER AA,bI,bU,bE,bKAA
bKHAA,bGAA,bGHAA,bNGAA,bCAA,bCHAA,bJAA,bJHAA,bNYAA,bTTAA,bTTHAA,bDDAA,bDDHAA,bNNAA,bTAA,bTHAA,bDAA
bDHAA,bNAA,bPAA,bPHAA,bBAA,bBHAA,bMAA,bYYAA,bYAA,bRAA,bLAA,bWAA,bSAA,bHAA,aVOWEL SIGN A,cI,cII,cU
cUU,cE,cAI,cO,cAU,cOI,aO MARK,aAU MARK,aVIRAMA,aMAAYYAA,11136:aDIGIT ZERO,bONE,bTWO,bTHREE,bFOUR
bFIVE,bSIX,bSEVEN,bEIGHT,bNINE,aSECTION MARK,aDANDA,aDOUBLE DANDA,aQUESTION MARK,aLETTER LHAA
aVOWEL SIGN AA,cEI,aLETTER VAA,11150:MAHAJANI LETTER A,bI,bU,bE,bO,bKA,bKHA,bGA,bGHA,bCA,bCHA,bJA
bJHA,bNYA,bTTA,bTTHA,bDDA,bDDHA,bNNA,bTA,bTHA,bDA,bDHA,bNA,bPA,bPHA,bBA,bBHA,bMA,bRA,bLA,bVA,bSA
bHA,bRRA,aSIGN NUKTA,aABBREVIATION SIGN,aSECTION MARK,aLIGATURE SHRI
11180:SHARADA SIGN CANDRABINDU,bANUSVARA,bVISARGA,aLETTER A,bAA,bI,bII,bU,bUU,bVOCALIC R,cRR,cL
cLL,bE,bAI,bO,bAU,bKA,bKHA,bGA,bGHA,bNGA,bCA,bCHA,bJA,bJHA,bNYA,bTTA,bTTHA,bDDA,bDDHA,bNNA,bTA
bTHA,bDA,bDHA,bNA,bPA,bPHA,bBA,bBHA,bMA,bYA,bRA,bLA,bLLA,bVA,bSHA,bSSA,bSA,bHA,aVOWEL SIGN AA,cI
cII,cU,cUU,cVOCALIC R,dRR,dL,dLL,cE,cAI,cO,cAU,aSIGN VIRAMA,bAVAGRAHA,bJIHVAMULIYA,bUPADHMANIYA
aOM,aDANDA,aDOUBLE DANDA,aABBREVIATION SIGN,aSEPARATOR,aSANDHI MARK,aSIGN NUKTA
aVOWEL MODIFIER MARK,aEXTRA SHORT VOWEL MARK,aSUTRA MARK,aVOWEL SIGN PRISHTHAMATRA E
aSIGN INVERTED CANDRABINDU,aDIGIT ZERO,bONE,bTWO,bTHREE,bFOUR,bFIVE,bSIX,bSEVEN,bEIGHT,bNINE,aEKAM
aSIGN SIDDHAM,aHEADSTROKE,aCONTINUATION SIGN,aSECTION MARK-1,bMARK-2
111E1:SINHALA ARCHAIC DIGIT ONE,cTWO,cTHREE,cFOUR,cFIVE,cSIX,cSEVEN,cEIGHT,cNINE,bNUMBER TEN
cTWENTY,cTHIRTY,cFORTY,cFIFTY,cSIXTY,cSEVENTY,cEIGHTY,cNINETY,cONE HUNDRED,dTHOUSAND
11200:KHOJKI LETTER A,bAA,bI,bU,bE,bAI,bO,bAU,bKA,bKHA,bGA,bGGA,bGHA,bNGA,bCA,bCHA,bJA,bJJA
11213:bNYA,bTTA,bTTHA,bDDA,bDDHA,bNNA,bTA,bTHA,bDA,bDDDA,bDHA,bNA,bPA,bPHA,bBA,bBBA,bBHA,bMA,bYA
bRA,bLA,bVA,bSA,bHA,bLLA,aVOWEL SIGN AA,cI,cII,cU,cE,cAI,cO,cAU,aSIGN ANUSVARA,bVIRAMA,bNUKTA
bSHADDA,aDANDA,aDOUBLE DANDA,aWORD SEPARATOR,aSECTION MARK,aDOUBLE SECTION MARK,aABBREVIATION SIGN
aSIGN SUKUN,11280:MULTANI LETTER A,bI,bU,bE,bKA,bKHA,bGA,11288:bGHA,1128A:bCA,bCHA,bJA,bJJA
1128F:bNYA,bTTA,bTTHA,bDDA,bDDDA,bDDHA,bNNA,bTA,bTHA,bDA,bDHA,bNA,bPA,bPHA,bBA,1129F:bBHA,bMA,bYA
bRA,bLA,bVA,bSA,bHA,bRRA,bRHA,aSECTION MARK,112B0:KHUDAWADI LETTER A,bAA,bI,bII,bU,bUU,bE,bAI,bO
bAU,bKA,bKHA,bGA,bGGA,bGHA,bNGA,bCA,bCHA,bJA,bJJA,bJHA,bNYA,bTTA,bTTHA,bDDA,bDDDA,bRRA,bDDHA,bNNA
bTA,bTHA,bDA,bDHA,bNA,bPA,bPHA,bBA,bBBA,bBHA,bMA,bYA,bRA,bLA,bVA,bSHA,bSA,bHA,aSIGN ANUSVARA
aVOWEL SIGN AA,cI,cII,cU,cUU,cE,cAI,cO,cAU,aSIGN NUKTA,bVIRAMA,112F0:aDIGIT ZERO,bONE,bTWO,bTHREE
bFOUR,bFIVE,bSIX,bSEVEN,bEIGHT,bNINE,11300:GRANTHA SIGN COMBINING ANUSVARA ABOVE,bCANDRABINDU
bANUSVARA,bVISARGA,11305:aLETTER A,bAA,bI,bII,bU,bUU,bVOCALIC R,cL,1130F:bEE,bAI,11313:bOO,bAU,bKA
bKHA,bGA,bGHA,bNGA,bCA,bCHA,bJA,bJHA,bNYA,bTTA,bTTHA,bDDA,bDDHA,bNNA,bTA,bTHA,bDA,bDHA,bNA
1132A:bPA,bPHA,bBA,bBHA,bMA,bYA,bRA,11332:bLA,bLLA,11335:bVA,bSHA,bSSA,bSA,bHA
1133B:COMBINING BINDU BELOW,GRANTHA SIGN NUKTA,bAVAGRAHA,aVOWEL SIGN AA,cI,cII,cU,cUU,cVOCALIC R
dRR,11347:cEE,cAI,1134B:cOO,cAU,aSIGN VIRAMA,11350:aOM,11357:aAU LENGTH MARK,1135D:aSIGN PLUTA
aLETTER VEDIC ANUSVARA,cDOUBLE ANUSVARA,bVOCALIC RR,cLL,aVOWEL SIGN VOCALIC L,dLL
11366:COMBINING GRANTHA DIGIT ZERO,cONE,cTWO,cTHREE,cFOUR,cFIVE,cSIX,11370:bLETTER A,cKA,cNA,cVI
cPA,11400:NEWA LETTER A,bAA,bI,bII,bU,bUU,bVOCALIC R,cRR,cL,cLL,bE,bAI,bO,bAU,bKA,bKHA,bGA,bGHA
bNGA,bNGHA,bCA,bCHA,bJA,bJHA,bNYA,bNYHA,bTTA,bTTHA,bDDA,bDDHA,bNNA,bTA,bTHA,bDA,bDHA,bNA,bNHA,bPA
bPHA,bBA,bBHA,bMA,bMHA,bYA,bRA,bRHA,bLA,bLHA,bWA,bSHA,bSSA,bSA,bHA,aVOWEL SIGN AA,cI,cII,cU,cUU
cVOCALIC R,dRR,dL,dLL,cE,cAI,cO,cAU,aSIGN VIRAMA,bCANDRABINDU,bANUSVARA,bVISARGA,bNUKTA,bAVAGRAHA
bFINAL ANUSVARA,aOM,aSIDDHI,aDANDA,aDOUBLE DANDA,aCOMMA,aGAP FILLER,aABBREVIATION SIGN,aDIGIT ZERO
bONE,bTWO,bTHREE,bFOUR,bFIVE,bSIX,bSEVEN,bEIGHT,bNINE,aDOUBLE COMMA,aPLACEHOLDER MARK
1145D:aINSERTION SIGN,aSANDHI MARK,aLETTER VEDIC ANUSVARA,aSIGN JIHVAMULIYA,bUPADHMANIYA
11480:TIRHUTA ANJI,aLETTER A,bAA,bI,bII,bU,bUU,bVOCALIC R,cRR,cL,cLL,bE,bAI,bO,bAU,bKA,bKHA,bGA
bGHA,bNGA,bCA,bCHA,bJA,bJHA,bNYA,bTTA,bTTHA,bDDA,bDDHA,bNNA,bTA,bTHA,bDA,bDHA,bNA,bPA,bPHA,bBA
bBHA,bMA,bYA,bRA,bLA,bVA,bSHA,bSSA,bSA,bHA,aVOWEL SIGN AA,cI,cII,cU,cUU,cVOCALIC R,dRR,dL,dLL,cE
cSHORT E,cAI,cO,cSHORT O,cAU,aSIGN CANDRABINDU,bANUSVARA,bVISARGA,bVIRAMA,bNUKTA,bAVAGRAHA,aGVANG
aABBREVIATION SIGN,aOM,114D0:aDIGIT ZERO,bONE,bTWO,bTHREE,bFOUR,bFIVE,bSIX,bSEVEN,bEIGHT,bNINE
11580:SIDDHAM LETTER A,bAA,bI,bII,bU,bUU,bVOCALIC R,cRR,cL,cLL,bE,bAI,bO,bAU,bKA,bKHA,bGA,bGHA
bNGA,bCA,bCHA,bJA,bJHA,bNYA,bTTA,bTTHA,bDDA,bDDHA,bNNA,bTA,bTHA,bDA,bDHA,bNA,bPA,bPHA,bBA,bBHA,bMA
bYA,bRA,bLA,bVA,bSHA,bSSA,bSA,bHA,aVOWEL SIGN AA,cI,cII,cU,cUU,cVOCALIC R,dRR,115B8:cE,cAI,cO,cAU
aSIGN CANDRABINDU,bANUSVARA,bVISARGA,bVIRAMA,bNUKTA,bSIDDHAM,aDANDA,aDOUBLE DANDA,aSEPARATOR DOT
bBAR,aREPETITION MARK-1,bMARK-2,bMARK-3,aEND OF TEXT MARK
aSECTION MARK WITH TRIDENT AND U-SHAPED ORNAMENTS,fDOTTED CRESCENTS,dRAYS AND DOTTED CRESCENTS
gDOUBLE CRESCENTS,gTRIPLE CRESCENTS,cDOUBLE RING,eWITH RAYS,cWITH DOUBLE CRESCENTS
dTRIPLE CRESCENTS,dQUADRUPLE CRESCENTS,dSEPTUPLE CRESCENTS,dCIRCLES AND RAYS,fTWO ENCLOSURES
fFOUR ENCLOSURES,aLETTER THREE-CIRCLE ALTERNATE I,bTWO-CIRCLE ALTERNATE I,dII,bALTERNATE U
aVOWEL SIGN ALTERNATE U,dUU,11600:MODI LETTER A,bAA,bI,bII,bU,bUU,bVOCALIC R,cRR,cL,cLL,bE,bAI,bO
bAU,bKA,bKHA,bGA,bGHA,bNGA,bCA,bCHA,bJA,bJHA,bNYA,bTTA,bTTHA,bDDA,bDDHA,bNNA,bTA,bTHA,bDA,bDHA,bNA
bPA,bPHA,bBA,bBHA,bMA,bYA,bRA,bLA,bVA,bSHA,bSSA,bSA,bHA,bLLA,aVOWEL SIGN AA,cI,cII,cU,cUU
cVOCALIC R,dRR,dL,dLL,cE,cAI,cO,cAU,aSIGN ANUSVARA,bVISARGA,bVIRAMA,bARDHACANDRA,aDANDA
aDOUBLE DANDA,aABBREVIATION SIGN,aSIGN HUVA,11650:aDIGIT ZERO,bONE,bTWO,bTHREE,bFOUR,bFIVE,bSIX
bSEVEN,bEIGHT,bNINE,11660:MONGOLIAN BIRGA WITH ORNAMENT,aROTATED BIRGA,aDOUBLE BIRGA WITH ORNAMENT
aTRIPLE BIRGA WITH ORNAMENT,aBIRGA WITH DOUBLE ORNAMENT,aROTATED BIRGA WITH ORNAMENT
dDOUBLE ORNAMENT,aINVERTED BIRGA,cWITH DOUBLE ORNAMENT,aSWIRL BIRGA,cWITH ORNAMENT
dDOUBLE ORNAMENT,aTURNED SWIRL BIRGA WITH DOUBLE ORNAMENT,11680:TAKRI LETTER A,bAA,bI,bII,bU,bUU
bE,bAI,bO,bAU,bKA,bKHA,bGA,bGHA,bNGA,bCA,bCHA,bJA,bJHA,bNYA,bTTA,bTTHA,bDDA,bDDHA,bNNA,bTA,bTHA
bDA,bDHA,bNA,bPA,bPHA,bBA,bBHA,bMA,bYA,bRA,bLA,bVA,bSHA,bSA,bHA,bRRA,aSIGN ANUSVARA,bVISARGA
aVOWEL SIGN AA,cI,cII,cU,cUU,cE,cAI,cO,cAU,aSIGN VIRAMA,bNUKTA,aLETTER ARCHAIC KHA
aABBREVIATION SIGN,116C0:aDIGIT ZERO,bONE,bTWO,bTHREE,bFOUR,bFIVE,bSIX,bSEVEN,bEIGHT,bNINE
11700:AHOM LETTER KA,bKHA,bNGA,bNA,bTA,bALTERNATE TA,bPA,bPHA,bBA,bMA,bJA,bCHA,bTHA,bRA,bLA,bSA
bNYA,bHA,bA,bDA,bDHA,bGA,bALTERNATE GA,bGHA,bBHA,bJHA,bALTERNATE BA
1171D:aCONSONANT SIGN MEDIAL LA,dRA,dLIGATING RA,aVOWEL SIGN A,cAA,cI,cII,cU,cUU,cE,cAW,cO,cAI,cAM
aSIGN KILLER,11730:aDIGIT ZERO,bONE,bTWO,bTHREE,bFOUR,bFIVE,bSIX,bSEVEN,bEIGHT,bNINE,aNUMBER TEN
bTWENTY,aSIGN SMALL SECTION,bSECTION,bRULAI,aSYMBOL VI,aLETTER CA,bTTA,bTTHA,bDDA,bDDHA,bNNA,bLLA
11800:DOGRA LETTER A,bAA,bI,bII,bU,bUU,bE,bAI,bO,bAU,bKA,bKHA,bGA,bGHA,bNGA,bCA,bCHA,bJA,bJHA,bNYA
bTTA,bTTHA,bDDA,bDDHA,bNNA,bTA,bTHA,bDA,bDHA,bNA,bPA,bPHA,bBA,bBHA,bMA,bYA,bRA,bLA,bVA,bSHA,bSSA
bSA,bHA,bRRA,aVOWEL SIGN AA,cI,cII,cU,cUU,cVOCALIC R,dRR,cE,cAI,cO,cAU,aSIGN ANUSVARA,bVISARGA
bVIRAMA,bNUKTA,aABBREVIATION SIGN,118A0:WARANG CITI CAPITAL LETTER NGAA,dA,dWI,dYU,dYA,dYO,dII,dUU
dE,dO,dANG,dGA,dKO,dENY,dYUJ,dUC,dENN,dODD,dTTE,dNUNG,dDA,dAT,dAM,dBU,dPU,dHIYO,dHOLO,dHORR,dHAR
dSSUU,dSII,dVIYO,bSMALL LETTER NGAA,dA,dWI,dYU,dYA,dYO,dII,dUU,dE,dO,dANG,dGA,dKO,dENY,dYUJ,dUC
dENN,dODD,dTTE,dNUNG,dDA,dAT,dAM,dBU,dPU,dHIYO,dHOLO,dHORR,dHAR,dSSUU,dSII,dVIYO,bDIGIT ZERO,cONE
cTWO,cTHREE,cFOUR,cFIVE,cSIX,cSEVEN,cEIGHT,cNINE,bNUMBER TEN,cTWENTY,cTHIRTY,cFORTY,cFIFTY,cSIXTY
cSEVENTY,cEIGHTY,cNINETY,118FF:bOM,DIVES AKURU LETTER A,cAA,cI,cII,cU,cUU,cE,11909:cO,1190C:cKA
cKHA,cGA,cGHA,cNGA,cCA,cCHA,cJA,11915:cNYA,cTTA,11918:cDDA,cDDHA,cNNA,cTA,cTHA,cDA,cDHA,cNA,cPA
cPHA,cBA,cBHA,cMA,cYA,cYYA,cRA,cLA,cVA,cSHA,cSSA,cSA,cHA,cLLA,cZA,bVOWEL SIGN AA,dI,dII,dU,dUU,dE
11937:dAI,dO,1193B:bSIGN ANUSVARA,cCANDRABINDU,cHALANTA,bVIRAMA,bPREFIXED NASAL SIGN,bMEDIAL YA
bINITIAL RA,bMEDIAL RA,bSIGN NUKTA,bDOUBLE DANDA,bGAP FILLER,bEND OF TEXT MARK,11950:bDIGIT ZERO
cONE,cTWO,cTHREE,cFOUR,cFIVE,cSIX,cSEVEN,cEIGHT,cNINE,119A0:NANDINAGARI LETTER A,bAA,bI,bII,bU,bUU
bVOCALIC R,cRR,119AA:bE,bAI,bO,bAU,bKA,bKHA,bGA,bGHA,bNGA,bCA,bCHA,bJA,bJHA,bNYA,bTTA,bTTHA,bDDA
bDDHA,bNNA,bTA,bTHA,bDA,bDHA,bNA,bPA,bPHA,bBA,bBHA,bMA,bYA,bRA,bLA,bVA,bSHA,bSSA,bSA,bHA,bLLA,bRRA
aVOWEL SIGN AA,cI,cII,cU,cUU,cVOCALIC R,dRR,119DA:cE,cAI,cO,cAU,aSIGN ANUSVARA,bVISARGA,bVIRAMA
bAVAGRAHA,bSIDDHAM,aHEADSTROKE,aVOWEL SIGN PRISHTHAMATRA E,11A00:ZANABAZAR SQUARE LETTER A
bVOWEL SIGN I,dUE,dU,dE,dOE,dO,dAI,dAU,dREVERSED I,cLENGTH MARK,bLETTER KA,cKHA,cGA,cGHA,cNGA,cCA
cCHA,cJA,cNYA,cTTA,cTTHA,cDDA,cDDHA,cNNA,cTA,cTHA,cDA,cDHA,cNA,cPA,cPHA,cBA,cBHA,cMA,cTSA,cTSHA
cDZA,cDZHA,cZHA,cZA,c-A,cYA,cRA,cLA,cVA,cSHA,cSSA,cSA,cHA,cKSSA,bFINAL CONSONANT MARK,bSIGN VIRAMA
cCANDRABINDU,dWITH ORNAMENT,cCANDRA WITH ORNAMENT,cANUSVARA,cVISARGA,bCLUSTER-INITIAL LETTER RA
bCLUSTER-FINAL LETTER YA,dRA,dLA,dVA,bINITIAL HEAD MARK,bCLOSING HEAD MARK,bMARK TSHEG,cSHAD
cDOUBLE SHAD,cLONG TSHEG,bINITIAL DOUBLE-LINED HEAD MARK,bCLOSING DOUBLE-LINED HEAD MARK
bSUBJOINER,11A50:SOYOMBO LETTER A,aVOWEL SIGN I,cUE,cU,cE,cO,cOE,cAI,cAU,cVOCALIC R,dL
bLENGTH MARK,aLETTER KA,bKHA,bGA,bGHA,bNGA,bCA,bCHA,bJA,bJHA,bNYA,bTTA,bTTHA,bDDA,bDDHA,bNNA,bTA
bTHA,bDA,bDHA,bNA,bPA,bPHA,bBA,bBHA,bMA,bTSA,bTSHA,bDZA,bZHA,bZA,b-A,bYA,bRA,bLA,bVA,bSHA,bSSA,bSA
bHA,bKSSA,aSIGN JIHVAMULIYA,bUPADHMANIYA,aCLUSTER-INITIAL LETTER RA,cLA,cSHA,cSA
aFINAL CONSONANT SIGN G,dK,dNG,dD,dN,dB,dM,dR,dL,dSH,dS,d-A,aSIGN ANUSVARA,bVISARGA
aGEMINATION MARK,aSUBJOINER,aMARK TSHEG,bSHAD,bDOUBLE SHAD,bPLUTA
aHEAD MARK WITH MOON AND SUN AND TRIPLE FLAME,hFLAME,g,aTERMINAL MARK-1,bMARK-2
11AB0:CANADIAN SYLLABICS NATTILIK HI,cHII,cHO,cHOO,cHA,cHAA,cSHRI,cSHRII,cSHRO,cSHROO,cSHRA,cSHRAA
bSPE,bSPI,bSPO,bSPA,PAU CIN HAU LETTER PA,dKA,dLA,dMA,dDA,dZA,dVA,dNGA,dHA,dGA,dKHA,dSA,dBA,dCA
dTA,dTHA,dNA,dPHA,dRA,dFA,dCHA,dA,dE,dI,dO,dU,dUA,dIA,dFINAL P,eK,eT,eM,eN,eL,eW,eNG,eY
cRISING TONE LONG,e,cSANDHI GLOTTAL STOP,cRISING TONE LONG FINAL,eFINAL,cSANDHI GLOTTAL STOP FINAL
dTONE LONG,e,eLONG FINAL,eFINAL,cMID-LEVEL TONE,cGLOTTAL STOP VARIANT,cMID-LEVEL TONE LONG FINAL
eFINAL,cLOW-FALLING TONE LONG,e,cGLOTTAL STOP,cLOW-FALLING TONE LONG FINAL,eFINAL
cGLOTTAL STOP FINAL,11C00:BHAIKSUKI LETTER A,bAA,bI,bII,bU,bUU,bVOCALIC R,cRR,cL,11C0A:bE,bAI,bO
bAU,bKA,bKHA,bGA,bGHA,bNGA,bCA,bCHA,bJA,bJHA,bNYA,bTTA,bTTHA,bDDA,bDDHA,bNNA,bTA,bTHA,bDA,bDHA,bNA
bPA,bPHA,bBA,bBHA,bMA,bYA,bRA,bLA,bVA,bSHA,bSSA,bSA,bHA,aVOWEL SIGN AA,cI,cII,cU,cUU,cVOCALIC R
dRR,dL,11C38:cE,cAI,cO,cAU,aSIGN CANDRABINDU,bANUSVARA,bVISARGA,bVIRAMA,bAVAGRAHA,aDANDA
aDOUBLE DANDA,aWORD SEPARATOR,aGAP FILLER-1,bFILLER-2,11C50:aDIGIT ZERO,bONE,bTWO,bTHREE,bFOUR
bFIVE,bSIX,bSEVEN,bEIGHT,bNINE,aNUMBER ONE,bTWO,bTHREE,bFOUR,bFIVE,bSIX,bSEVEN,bEIGHT,bNINE,bTEN
bTWENTY,bTHIRTY,bFORTY,bFIFTY,bSIXTY,bSEVENTY,bEIGHTY,bNINETY,aHUNDREDS UNIT MARK
11C70:MARCHEN HEAD MARK,aMARK SHAD,aLETTER KA,bKHA,bGA,bNGA,bCA,bCHA,bJA,bNYA,bTA,bTHA,bDA,bNA,bPA
bPHA,bBA,bMA,bTSA,bTSHA,bDZA,bWA,bZHA,bZA,b-A,bYA,bRA,bLA,bSHA,bSA,bHA,bA
11C92:aSUBJOINED LETTER KA,cKHA,cGA,cNGA,cCA,cCHA,cJA,cNYA,cTA,cTHA,cDA,cNA,cPA,cPHA,cBA,cMA,cTSA
cTSHA,cDZA,cWA,cZHA,cZA,11CA9:cYA,cRA,cLA,cSHA,cSA,cHA,cA,aVOWEL SIGN AA,cI,cU,cE,cO
aSIGN ANUSVARA,bCANDRABINDU,11D00:MASARAM GONDI LETTER A,cAA,cI,cII,cU,cUU,cE,11D08:cAI,cO
11D0B:cAU,cKA,cKHA,cGA,cGHA,cNGA,cCA,cCHA,cJA,cJHA,cNYA,cTTA,cTTHA,cDDA,cDDHA,cNNA,cTA,cTHA,cDA
cDHA,cNA,cPA,cPHA,cBA,cBHA,cMA,cYA,cRA,cLA,cVA,cSHA,cSSA,cSA,cHA,cLLA,cKSSA,cJNYA,cTRA
bVOWEL SIGN AA,dI,dII,dU,dUU,dVOCALIC R,11D3A:dE,11D3C:dAI,dO,11D3F:dAU,bSIGN ANUSVARA,cVISARGA
cNUKTA,cCANDRA,cHALANTA,bVIRAMA,bREPHA,bRA-KARA,11D50:bDIGIT ZERO,cONE,cTWO,cTHREE,cFOUR,cFIVE
cSIX,cSEVEN,cEIGHT,cNINE,11D60:GUNJALA GONDI LETTER A,cAA,cI,cII,cU,cUU,11D67:cEE,cAI,11D6A:cOO
cAU,cYA,cVA,cBA,cBHA,cMA,cKA,cKHA,cTA,cTHA,cLA,cGA,cGHA,cDA,cDHA,cNA,cCA,cCHA,cTTA,cTTHA,cLLA,cJA
cJHA,cDDA,cDDHA,cNGA,cPA,cPHA,cHA,cRA,cSA,bVOWEL SIGN AA,dI,dII,dU,dUU,11D90:dEE,dAI,11D93:dOO,dAU
bSIGN ANUSVARA,cVISARGA,bVIRAMA,bOM,11DA0:bDIGIT ZERO,cONE,cTWO,cTHREE,cFOUR,cFIVE,cSIX,cSEVEN
cEIGHT,cNINE,11EE0:MAKASAR LETTER KA,bGA,bNGA,bPA,bBA,bMA,bTA,bDA,bNA,bCA,bJA,bNYA,bYA,bRA,bLA,bVA
bSA,bA,aANGKA,aVOWEL SIGN I,cU,cE,cO,aPASSIMBANG,aEND OF SECTION,11FB0:LISU LETTER YHA
11FC0:TAMIL FRACTION ONE THREE-HUNDRED-AND-TWENTIETH,cONE-HUNDRED-AND-SIXTIETH,cEIGHTIETH
cSIXTY-FOURTH,cFORTIETH,cTHIRTY-SECOND,bTHREE EIGHTIETHS,cSIXTY-FOURTHS,bONE TWENTIETH
cSIXTEENTH-1,cSIXTEENTH-2,cTENTH,cEIGHTH,bTHREE TWENTIETHS,cSIXTEENTHS,bONE FIFTH,cQUARTER,cHALF-1
cHALF-2,bTHREE QUARTERS,bDOWNSCALING FACTOR KIIZH,aSIGN NEL,bCEVITU,bAAZHAAKKU,bUZHAKKU
bMUUVUZHAKKU,bKURUNI,bPATHAKKU,bMUKKURUNI,bKAACU,bPANAM,bPON,bVARAAKAN,bPAARAM,bKUZHI,bVELI
aWET CULTIVATION SIGN,aDRY CULTIVATION SIGN,aLAND SIGN,aSALT PAN SIGN,aTRADITIONAL CREDIT SIGN
bNUMBER SIGN,aCURRENT SIGN,aAND ODD SIGN,aSPENT SIGN,aTOTAL SIGN,aIN POSSESSION SIGN
aSTARTING FROM SIGN,aSIGN MUTHALIYA,bVAKAIYARAA,11FFF:aPUNCTUATION END OF TEXT"

end RasterAlgebra.Text.CharacterName
