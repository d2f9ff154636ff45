/-!
# Names from Basic Latin to Tibetan

Unicode 14, U+0000 to U+0FFF: Latin, Greek, Cyrillic, and the alphabets from Armenian to Tibetan.
-/

namespace RasterAlgebra.Text.CharacterName

/-- Entries of a table of names. -/
def alphabets : String := "
20:SPACE,EXCLAMATION MARK,QUOTATION MARK,NUMBER SIGN,DOLLAR SIGN,PERCENT SIGN,AMPERSAND,APOSTROPHE
LEFT PARENTHESIS,RIGHT PARENTHESIS,ASTERISK,PLUS SIGN,COMMA,HYPHEN-MINUS,FULL STOP,SOLIDUS
DIGIT ZERO,aONE,aTWO,aTHREE,aFOUR,aFIVE,aSIX,aSEVEN,aEIGHT,aNINE,COLON,SEMICOLON,LESS-THAN SIGN
EQUALS SIGN,GREATER-THAN SIGN,QUESTION MARK,COMMERCIAL AT,LATIN CAPITAL LETTER A,cB,cC,cD,cE,cF,cG
cH,cI,cJ,cK,cL,cM,cN,cO,cP,cQ,cR,cS,cT,cU,cV,cW,cX,cY,cZ,LEFT SQUARE BRACKET,REVERSE SOLIDUS
RIGHT SQUARE BRACKET,CIRCUMFLEX ACCENT,LOW LINE,GRAVE ACCENT,LATIN SMALL LETTER A,cB,cC,cD,cE,cF
cG,cH,cI,cJ,cK,cL,cM,cN,cO,cP,cQ,cR,cS,cT,cU,cV,cW,cX,cY,cZ,LEFT CURLY BRACKET,VERTICAL LINE
RIGHT CURLY BRACKET,TILDE,A0:NO-BREAK SPACE,INVERTED EXCLAMATION MARK,CENT SIGN,POUND SIGN
CURRENCY SIGN,YEN SIGN,BROKEN BAR,SECTION SIGN,DIAERESIS,COPYRIGHT SIGN,FEMININE ORDINAL INDICATOR
LEFT-POINTING DOUBLE ANGLE QUOTATION MARK,NOT SIGN,SOFT HYPHEN,REGISTERED SIGN,MACRON,DEGREE SIGN
PLUS-MINUS SIGN,SUPERSCRIPT TWO,aTHREE,ACUTE ACCENT,MICRO SIGN,PILCROW SIGN,MIDDLE DOT,CEDILLA
SUPERSCRIPT ONE,MASCULINE ORDINAL INDICATOR,RIGHT-POINTING DOUBLE ANGLE QUOTATION MARK
VULGAR FRACTION ONE QUARTER,cHALF,bTHREE QUARTERS,INVERTED QUESTION MARK
LATIN CAPITAL LETTER A WITH GRAVE,eACUTE,eCIRCUMFLEX,eTILDE,eDIAERESIS,eRING ABOVE,cAE
cC WITH CEDILLA,cE WITH GRAVE,eACUTE,eCIRCUMFLEX,eDIAERESIS,cI WITH GRAVE,eACUTE,eCIRCUMFLEX
eDIAERESIS,cETH,cN WITH TILDE,cO WITH GRAVE,eACUTE,eCIRCUMFLEX,eTILDE,eDIAERESIS
MULTIPLICATION SIGN,LATIN CAPITAL LETTER O WITH STROKE,cU WITH GRAVE,eACUTE,eCIRCUMFLEX,eDIAERESIS
cY WITH ACUTE,cTHORN,aSMALL LETTER SHARP S,cA WITH GRAVE,eACUTE,eCIRCUMFLEX,eTILDE,eDIAERESIS
eRING ABOVE,cAE,cC WITH CEDILLA,cE WITH GRAVE,eACUTE,eCIRCUMFLEX,eDIAERESIS,cI WITH GRAVE,eACUTE
eCIRCUMFLEX,eDIAERESIS,cETH,cN WITH TILDE,cO WITH GRAVE,eACUTE,eCIRCUMFLEX,eTILDE,eDIAERESIS
DIVISION SIGN,LATIN SMALL LETTER O WITH STROKE,cU WITH GRAVE,eACUTE,eCIRCUMFLEX,eDIAERESIS
cY WITH ACUTE,cTHORN,cY WITH DIAERESIS,aCAPITAL LETTER A WITH MACRON,aSMALL LETTER A WITH MACRON
aCAPITAL LETTER A WITH BREVE,aSMALL LETTER A WITH BREVE,aCAPITAL LETTER A WITH OGONEK
aSMALL LETTER A WITH OGONEK,aCAPITAL LETTER C WITH ACUTE,aSMALL LETTER C WITH ACUTE
aCAPITAL LETTER C WITH CIRCUMFLEX,aSMALL LETTER C WITH CIRCUMFLEX,aCAPITAL LETTER C WITH DOT ABOVE
aSMALL LETTER C WITH DOT ABOVE,aCAPITAL LETTER C WITH CARON,aSMALL LETTER C WITH CARON
aCAPITAL LETTER D WITH CARON,aSMALL LETTER D WITH CARON,aCAPITAL LETTER D WITH STROKE
aSMALL LETTER D WITH STROKE,aCAPITAL LETTER E WITH MACRON,aSMALL LETTER E WITH MACRON
aCAPITAL LETTER E WITH BREVE,aSMALL LETTER E WITH BREVE,aCAPITAL LETTER E WITH DOT ABOVE
aSMALL LETTER E WITH DOT ABOVE,aCAPITAL LETTER E WITH OGONEK,aSMALL LETTER E WITH OGONEK
aCAPITAL LETTER E WITH CARON,aSMALL LETTER E WITH CARON,aCAPITAL LETTER G WITH CIRCUMFLEX
aSMALL LETTER G WITH CIRCUMFLEX,aCAPITAL LETTER G WITH BREVE,aSMALL LETTER G WITH BREVE
aCAPITAL LETTER G WITH DOT ABOVE,aSMALL LETTER G WITH DOT ABOVE,aCAPITAL LETTER G WITH CEDILLA
aSMALL LETTER G WITH CEDILLA,aCAPITAL LETTER H WITH CIRCUMFLEX,aSMALL LETTER H WITH CIRCUMFLEX
aCAPITAL LETTER H WITH STROKE,aSMALL LETTER H WITH STROKE,aCAPITAL LETTER I WITH TILDE
aSMALL LETTER I WITH TILDE,aCAPITAL LETTER I WITH MACRON,aSMALL LETTER I WITH MACRON
aCAPITAL LETTER I WITH BREVE,aSMALL LETTER I WITH BREVE,aCAPITAL LETTER I WITH OGONEK
aSMALL LETTER I WITH OGONEK,aCAPITAL LETTER I WITH DOT ABOVE,aSMALL LETTER DOTLESS I
aCAPITAL LIGATURE IJ,aSMALL LIGATURE IJ,aCAPITAL LETTER J WITH CIRCUMFLEX
aSMALL LETTER J WITH CIRCUMFLEX,aCAPITAL LETTER K WITH CEDILLA,aSMALL LETTER K WITH CEDILLA,cKRA
aCAPITAL LETTER L WITH ACUTE,aSMALL LETTER L WITH ACUTE,aCAPITAL LETTER L WITH CEDILLA
aSMALL LETTER L WITH CEDILLA,aCAPITAL LETTER L WITH CARON,aSMALL LETTER L WITH CARON
aCAPITAL LETTER L WITH MIDDLE DOT,aSMALL LETTER L WITH MIDDLE DOT,aCAPITAL LETTER L WITH STROKE
aSMALL LETTER L WITH STROKE,aCAPITAL LETTER N WITH ACUTE,aSMALL LETTER N WITH ACUTE
aCAPITAL LETTER N WITH CEDILLA,aSMALL LETTER N WITH CEDILLA,aCAPITAL LETTER N WITH CARON
aSMALL LETTER N WITH CARON,dPRECEDED BY APOSTROPHE,aCAPITAL LETTER ENG,aSMALL LETTER ENG
aCAPITAL LETTER O WITH MACRON,aSMALL LETTER O WITH MACRON,aCAPITAL LETTER O WITH BREVE
aSMALL LETTER O WITH BREVE,aCAPITAL LETTER O WITH DOUBLE ACUTE,aSMALL LETTER O WITH DOUBLE ACUTE
aCAPITAL LIGATURE OE,aSMALL LIGATURE OE,aCAPITAL LETTER R WITH ACUTE,aSMALL LETTER R WITH ACUTE
aCAPITAL LETTER R WITH CEDILLA,aSMALL LETTER R WITH CEDILLA,aCAPITAL LETTER R WITH CARON
aSMALL LETTER R WITH CARON,aCAPITAL LETTER S WITH ACUTE,aSMALL LETTER S WITH ACUTE
aCAPITAL LETTER S WITH CIRCUMFLEX,aSMALL LETTER S WITH CIRCUMFLEX,aCAPITAL LETTER S WITH CEDILLA
aSMALL LETTER S WITH CEDILLA,aCAPITAL LETTER S WITH CARON,aSMALL LETTER S WITH CARON
aCAPITAL LETTER T WITH CEDILLA,aSMALL LETTER T WITH CEDILLA,aCAPITAL LETTER T WITH CARON
aSMALL LETTER T WITH CARON,aCAPITAL LETTER T WITH STROKE,aSMALL LETTER T WITH STROKE
aCAPITAL LETTER U WITH TILDE,aSMALL LETTER U WITH TILDE,aCAPITAL LETTER U WITH MACRON
aSMALL LETTER U WITH MACRON,aCAPITAL LETTER U WITH BREVE,aSMALL LETTER U WITH BREVE
aCAPITAL LETTER U WITH RING ABOVE,aSMALL LETTER U WITH RING ABOVE
aCAPITAL LETTER U WITH DOUBLE ACUTE,aSMALL LETTER U WITH DOUBLE ACUTE
aCAPITAL LETTER U WITH OGONEK,aSMALL LETTER U WITH OGONEK,aCAPITAL LETTER W WITH CIRCUMFLEX
aSMALL LETTER W WITH CIRCUMFLEX,aCAPITAL LETTER Y WITH CIRCUMFLEX,aSMALL LETTER Y WITH CIRCUMFLEX
aCAPITAL LETTER Y WITH DIAERESIS,cZ WITH ACUTE,aSMALL LETTER Z WITH ACUTE
aCAPITAL LETTER Z WITH DOT ABOVE,aSMALL LETTER Z WITH DOT ABOVE,aCAPITAL LETTER Z WITH CARON
aSMALL LETTER Z WITH CARON,cLONG S,cB WITH STROKE,aCAPITAL LETTER B WITH HOOK,eTOPBAR
aSMALL LETTER B WITH TOPBAR,aCAPITAL LETTER TONE SIX,aSMALL LETTER TONE SIX,aCAPITAL LETTER OPEN O
cC WITH HOOK,aSMALL LETTER C WITH HOOK,aCAPITAL LETTER AFRICAN D,cD WITH HOOK,eTOPBAR
aSMALL LETTER D WITH TOPBAR,cTURNED DELTA,aCAPITAL LETTER REVERSED E,cSCHWA,cOPEN E,cF WITH HOOK
aSMALL LETTER F WITH HOOK,aCAPITAL LETTER G WITH HOOK,cGAMMA,aSMALL LETTER HV,aCAPITAL LETTER IOTA
cI WITH STROKE,cK WITH HOOK,aSMALL LETTER K WITH HOOK,cL WITH BAR,cLAMBDA WITH STROKE
aCAPITAL LETTER TURNED M,cN WITH LEFT HOOK,aSMALL LETTER N WITH LONG RIGHT LEG
aCAPITAL LETTER O WITH MIDDLE TILDE,eHORN,aSMALL LETTER O WITH HORN,aCAPITAL LETTER OI
aSMALL LETTER OI,aCAPITAL LETTER P WITH HOOK,aSMALL LETTER P WITH HOOK,aLETTER YR
aCAPITAL LETTER TONE TWO,aSMALL LETTER TONE TWO,aCAPITAL LETTER ESH,aLETTER REVERSED ESH LOOP
aSMALL LETTER T WITH PALATAL HOOK,aCAPITAL LETTER T WITH HOOK,aSMALL LETTER T WITH HOOK
aCAPITAL LETTER T WITH RETROFLEX HOOK,cU WITH HORN,aSMALL LETTER U WITH HORN
aCAPITAL LETTER UPSILON,cV WITH HOOK,cY WITH HOOK,aSMALL LETTER Y WITH HOOK
aCAPITAL LETTER Z WITH STROKE,aSMALL LETTER Z WITH STROKE,aCAPITAL LETTER EZH,dREVERSED
aSMALL LETTER EZH REVERSED,dWITH TAIL,aLETTER TWO WITH STROKE,aCAPITAL LETTER TONE FIVE
aSMALL LETTER TONE FIVE,aLETTER INVERTED GLOTTAL STOP WITH STROKE,bWYNN,bDENTAL CLICK
bLATERAL CLICK,bALVEOLAR CLICK,bRETROFLEX CLICK,aCAPITAL LETTER DZ WITH CARON
cD WITH SMALL LETTER Z WITH CARON,aSMALL LETTER DZ WITH CARON,aCAPITAL LETTER LJ
cL WITH SMALL LETTER J,aSMALL LETTER LJ,aCAPITAL LETTER NJ,cN WITH SMALL LETTER J,aSMALL LETTER NJ
aCAPITAL LETTER A WITH CARON,aSMALL LETTER A WITH CARON,aCAPITAL LETTER I WITH CARON
aSMALL LETTER I WITH CARON,aCAPITAL LETTER O WITH CARON,aSMALL LETTER O WITH CARON
aCAPITAL LETTER U WITH CARON,aSMALL LETTER U WITH CARON
aCAPITAL LETTER U WITH DIAERESIS AND MACRON,aSMALL LETTER U WITH DIAERESIS AND MACRON
aCAPITAL LETTER U WITH DIAERESIS AND ACUTE,aSMALL LETTER U WITH DIAERESIS AND ACUTE
aCAPITAL LETTER U WITH DIAERESIS AND CARON,aSMALL LETTER U WITH DIAERESIS AND CARON
aCAPITAL LETTER U WITH DIAERESIS AND GRAVE,aSMALL LETTER U WITH DIAERESIS AND GRAVE,cTURNED E
aCAPITAL LETTER A WITH DIAERESIS AND MACRON,aSMALL LETTER A WITH DIAERESIS AND MACRON
aCAPITAL LETTER A WITH DOT ABOVE AND MACRON,aSMALL LETTER A WITH DOT ABOVE AND MACRON
aCAPITAL LETTER AE WITH MACRON,aSMALL LETTER AE WITH MACRON,aCAPITAL LETTER G WITH STROKE
aSMALL LETTER G WITH STROKE,aCAPITAL LETTER G WITH CARON,aSMALL LETTER G WITH CARON
aCAPITAL LETTER K WITH CARON,aSMALL LETTER K WITH CARON,aCAPITAL LETTER O WITH OGONEK
aSMALL LETTER O WITH OGONEK,aCAPITAL LETTER O WITH OGONEK AND MACRON
aSMALL LETTER O WITH OGONEK AND MACRON,aCAPITAL LETTER EZH WITH CARON,aSMALL LETTER EZH WITH CARON
cJ WITH CARON,aCAPITAL LETTER DZ,cD WITH SMALL LETTER Z,aSMALL LETTER DZ
aCAPITAL LETTER G WITH ACUTE,aSMALL LETTER G WITH ACUTE,aCAPITAL LETTER HWAIR,cWYNN,cN WITH GRAVE
aSMALL LETTER N WITH GRAVE,aCAPITAL LETTER A WITH RING ABOVE AND ACUTE
aSMALL LETTER A WITH RING ABOVE AND ACUTE,aCAPITAL LETTER AE WITH ACUTE
aSMALL LETTER AE WITH ACUTE,aCAPITAL LETTER O WITH STROKE AND ACUTE
aSMALL LETTER O WITH STROKE AND ACUTE,aCAPITAL LETTER A WITH DOUBLE GRAVE
aSMALL LETTER A WITH DOUBLE GRAVE,aCAPITAL LETTER A WITH INVERTED BREVE
aSMALL LETTER A WITH INVERTED BREVE,aCAPITAL LETTER E WITH DOUBLE GRAVE
aSMALL LETTER E WITH DOUBLE GRAVE,aCAPITAL LETTER E WITH INVERTED BREVE
aSMALL LETTER E WITH INVERTED BREVE,aCAPITAL LETTER I WITH DOUBLE GRAVE
aSMALL LETTER I WITH DOUBLE GRAVE,aCAPITAL LETTER I WITH INVERTED BREVE
aSMALL LETTER I WITH INVERTED BREVE,aCAPITAL LETTER O WITH DOUBLE GRAVE
aSMALL LETTER O WITH DOUBLE GRAVE,aCAPITAL LETTER O WITH INVERTED BREVE
aSMALL LETTER O WITH INVERTED BREVE,aCAPITAL LETTER R WITH DOUBLE GRAVE
aSMALL LETTER R WITH DOUBLE GRAVE,aCAPITAL LETTER R WITH INVERTED BREVE
aSMALL LETTER R WITH INVERTED BREVE,aCAPITAL LETTER U WITH DOUBLE GRAVE
aSMALL LETTER U WITH DOUBLE GRAVE,aCAPITAL LETTER U WITH INVERTED BREVE
aSMALL LETTER U WITH INVERTED BREVE,aCAPITAL LETTER S WITH COMMA BELOW
aSMALL LETTER S WITH COMMA BELOW,aCAPITAL LETTER T WITH COMMA BELOW
aSMALL LETTER T WITH COMMA BELOW,aCAPITAL LETTER YOGH,aSMALL LETTER YOGH
aCAPITAL LETTER H WITH CARON,aSMALL LETTER H WITH CARON,aCAPITAL LETTER N WITH LONG RIGHT LEG
aSMALL LETTER D WITH CURL,aCAPITAL LETTER OU,aSMALL LETTER OU,aCAPITAL LETTER Z WITH HOOK
aSMALL LETTER Z WITH HOOK,aCAPITAL LETTER A WITH DOT ABOVE,aSMALL LETTER A WITH DOT ABOVE
aCAPITAL LETTER E WITH CEDILLA,aSMALL LETTER E WITH CEDILLA
aCAPITAL LETTER O WITH DIAERESIS AND MACRON,aSMALL LETTER O WITH DIAERESIS AND MACRON
aCAPITAL LETTER O WITH TILDE AND MACRON,aSMALL LETTER O WITH TILDE AND MACRON
aCAPITAL LETTER O WITH DOT ABOVE,aSMALL LETTER O WITH DOT ABOVE
aCAPITAL LETTER O WITH DOT ABOVE AND MACRON,aSMALL LETTER O WITH DOT ABOVE AND MACRON
aCAPITAL LETTER Y WITH MACRON,aSMALL LETTER Y WITH MACRON,cL WITH CURL,cN WITH CURL,cT WITH CURL
cDOTLESS J,cDB DIGRAPH,cQP DIGRAPH,aCAPITAL LETTER A WITH STROKE,cC WITH STROKE
aSMALL LETTER C WITH STROKE,aCAPITAL LETTER L WITH BAR,cT WITH DIAGONAL STROKE
aSMALL LETTER S WITH SWASH TAIL,cZ WITH SWASH TAIL,aCAPITAL LETTER GLOTTAL STOP
aSMALL LETTER GLOTTAL STOP,aCAPITAL LETTER B WITH STROKE,cU BAR,cTURNED V,cE WITH STROKE
aSMALL LETTER E WITH STROKE,aCAPITAL LETTER J WITH STROKE,aSMALL LETTER J WITH STROKE
aCAPITAL LETTER SMALL Q WITH HOOK TAIL,aSMALL LETTER Q WITH HOOK TAIL
aCAPITAL LETTER R WITH STROKE,aSMALL LETTER R WITH STROKE,aCAPITAL LETTER Y WITH STROKE
aSMALL LETTER Y WITH STROKE,cTURNED A,cALPHA,cTURNED ALPHA,cB WITH HOOK,cOPEN O,cC WITH CURL
cD WITH TAIL,eHOOK,cREVERSED E,cSCHWA,dWITH HOOK,cOPEN E,cREVERSED OPEN E,fWITH HOOK
cCLOSED REVERSED OPEN E,cDOTLESS J WITH STROKE,cG WITH HOOK,cSCRIPT G,aLETTER SMALL CAPITAL G
aSMALL LETTER GAMMA,cRAMS HORN,cTURNED H,cH WITH HOOK,cHENG WITH HOOK,cI WITH STROKE,cIOTA
aLETTER SMALL CAPITAL I,aSMALL LETTER L WITH MIDDLE TILDE,eBELT,eRETROFLEX HOOK,cLEZH,cTURNED M
eWITH LONG LEG,cM WITH HOOK,cN WITH LEFT HOOK,eRETROFLEX HOOK,aLETTER SMALL CAPITAL N
aSMALL LETTER BARRED O,aLETTER SMALL CAPITAL OE,aSMALL LETTER CLOSED OMEGA,cPHI,cTURNED R
eWITH LONG LEG,fHOOK,cR WITH LONG LEG,eTAIL,eFISHHOOK,cREVERSED R WITH FISHHOOK
aLETTER SMALL CAPITAL R,dINVERTED R,aSMALL LETTER S WITH HOOK,cESH,cDOTLESS J WITH STROKE AND HOOK
cSQUAT REVERSED ESH,cESH WITH CURL,cTURNED T,cT WITH RETROFLEX HOOK,cU BAR,cUPSILON,cV WITH HOOK
cTURNED V,dW,dY,aLETTER SMALL CAPITAL Y,aSMALL LETTER Z WITH RETROFLEX HOOK,eCURL,cEZH,dWITH CURL
aLETTER GLOTTAL STOP,bPHARYNGEAL VOICED FRICATIVE,bINVERTED GLOTTAL STOP,bSTRETCHED C
bBILABIAL CLICK,bSMALL CAPITAL B,aSMALL LETTER CLOSED OPEN E,aLETTER SMALL CAPITAL G WITH HOOK,dH
aSMALL LETTER J WITH CROSSED-TAIL,cTURNED K,aLETTER SMALL CAPITAL L,aSMALL LETTER Q WITH HOOK
aLETTER GLOTTAL STOP WITH STROKE,bREVERSED GLOTTAL STOP WITH STROKE,aSMALL LETTER DZ DIGRAPH
cDEZH DIGRAPH,cDZ DIGRAPH WITH CURL,cTS DIGRAPH,cTESH DIGRAPH,cTC DIGRAPH WITH CURL,cFENG DIGRAPH
cLS DIGRAPH,cLZ DIGRAPH,aLETTER BILABIAL PERCUSSIVE,bBIDENTAL PERCUSSIVE
aSMALL LETTER TURNED H WITH FISHHOOK,gAND TAIL,MODIFIER LETTER SMALL H,dWITH HOOK,cJ,cR,cTURNED R
eWITH HOOK,cCAPITAL INVERTED R,cW,cY,bPRIME,bDOUBLE PRIME,bTURNED COMMA,bAPOSTROPHE
bREVERSED COMMA,bRIGHT HALF RING,bLEFT HALF RING,bGLOTTAL STOP,bREVERSED GLOTTAL STOP
bLEFT ARROWHEAD,bRIGHT ARROWHEAD,bUP ARROWHEAD,bDOWN ARROWHEAD,bCIRCUMFLEX ACCENT,CARON
MODIFIER LETTER VERTICAL LINE,bMACRON,bACUTE ACCENT,bGRAVE ACCENT,bLOW VERTICAL LINE,cMACRON
cGRAVE ACCENT,cACUTE ACCENT,bTRIANGULAR COLON,bHALF TRIANGULAR COLON,bCENTRED RIGHT HALF RING
cLEFT HALF RING,bUP TACK,bDOWN TACK,bPLUS SIGN,bMINUS SIGN,BREVE,DOT ABOVE,RING ABOVE,OGONEK
SMALL TILDE,DOUBLE ACUTE ACCENT,MODIFIER LETTER RHOTIC HOOK,bCROSS ACCENT,bSMALL GAMMA,cL,cS,cX
cREVERSED GLOTTAL STOP,bEXTRA-HIGH TONE BAR,bHIGH TONE BAR,bMID TONE BAR,bLOW TONE BAR
bEXTRA-LOW TONE BAR,bYIN DEPARTING TONE MARK,bYANG DEPARTING TONE MARK,bVOICING,bUNASPIRATED
bDOUBLE APOSTROPHE,bLOW DOWN ARROWHEAD,cUP ARROWHEAD,cLEFT ARROWHEAD,cRIGHT ARROWHEAD,cRING
bMIDDLE GRAVE ACCENT,cDOUBLE GRAVE ACCENT,dACUTE ACCENT,bLOW TILDE,bRAISED COLON,bBEGIN HIGH TONE
bEND HIGH TONE,bBEGIN LOW TONE,bEND LOW TONE,bSHELF,bOPEN SHELF,bLOW LEFT ARROW
COMBINING GRAVE ACCENT,aACUTE ACCENT,aCIRCUMFLEX ACCENT,aTILDE,aMACRON,aOVERLINE,aBREVE,aDOT ABOVE
aDIAERESIS,aHOOK ABOVE,aRING ABOVE,aDOUBLE ACUTE ACCENT,aCARON,aVERTICAL LINE ABOVE
aDOUBLE VERTICAL LINE ABOVE,bGRAVE ACCENT,aCANDRABINDU,aINVERTED BREVE,aTURNED COMMA ABOVE
aCOMMA ABOVE,aREVERSED COMMA ABOVE,aCOMMA ABOVE RIGHT,aGRAVE ACCENT BELOW,aACUTE ACCENT BELOW
aLEFT TACK BELOW,aRIGHT TACK BELOW,aLEFT ANGLE ABOVE,aHORN,aLEFT HALF RING BELOW,aUP TACK BELOW
aDOWN TACK BELOW,aPLUS SIGN BELOW,aMINUS SIGN BELOW,aPALATALIZED HOOK BELOW,aRETROFLEX HOOK BELOW
aDOT BELOW,aDIAERESIS BELOW,aRING BELOW,aCOMMA BELOW,aCEDILLA,aOGONEK,aVERTICAL LINE BELOW
aBRIDGE BELOW,aINVERTED DOUBLE ARCH BELOW,aCARON BELOW,aCIRCUMFLEX ACCENT BELOW,aBREVE BELOW
aINVERTED BREVE BELOW,aTILDE BELOW,aMACRON BELOW,aLOW LINE,aDOUBLE LOW LINE,aTILDE OVERLAY
aSHORT STROKE OVERLAY,aLONG STROKE OVERLAY,aSHORT SOLIDUS OVERLAY,aLONG SOLIDUS OVERLAY
aRIGHT HALF RING BELOW,aINVERTED BRIDGE BELOW,aSQUARE BELOW,aSEAGULL BELOW,aX ABOVE
aVERTICAL TILDE,aDOUBLE OVERLINE,aGRAVE TONE MARK,aACUTE TONE MARK,aGREEK PERISPOMENI,bKORONIS
bDIALYTIKA TONOS,bYPOGEGRAMMENI,aBRIDGE ABOVE,aEQUALS SIGN BELOW,aDOUBLE VERTICAL LINE BELOW
aLEFT ANGLE BELOW,aNOT TILDE ABOVE,aHOMOTHETIC ABOVE,aALMOST EQUAL TO ABOVE
aLEFT RIGHT ARROW BELOW,aUPWARDS ARROW BELOW,aGRAPHEME JOINER,aRIGHT ARROWHEAD ABOVE
aLEFT HALF RING ABOVE,aFERMATA,aX BELOW,aLEFT ARROWHEAD BELOW,aRIGHT ARROWHEAD BELOW
cAND UP ARROWHEAD BELOW,bHALF RING ABOVE,aDOT ABOVE RIGHT,aASTERISK BELOW,aDOUBLE RING BELOW
aZIGZAG ABOVE,aDOUBLE BREVE BELOW,c,bMACRON,cBELOW,bTILDE,bINVERTED BREVE,bRIGHTWARDS ARROW BELOW
aLATIN SMALL LETTER A,dE,dI,dO,dU,dC,dD,dH,dM,dR,dT,dV,dX,GREEK CAPITAL LETTER HETA
aSMALL LETTER HETA,aCAPITAL LETTER ARCHAIC SAMPI,aSMALL LETTER ARCHAIC SAMPI,aNUMERAL SIGN
aLOWER NUMERAL SIGN,aCAPITAL LETTER PAMPHYLIAN DIGAMMA,aSMALL LETTER PAMPHYLIAN DIGAMMA
37A:aYPOGEGRAMMENI,aSMALL REVERSED LUNATE SIGMA SYMBOL,bDOTTED LUNATE SIGMA SYMBOL
bREVERSED DOTTED LUNATE SIGMA SYMBOL,aQUESTION MARK,aCAPITAL LETTER YOT,384:aTONOS
aDIALYTIKA TONOS,aCAPITAL LETTER ALPHA WITH TONOS,aANO TELEIA,aCAPITAL LETTER EPSILON WITH TONOS
cETA WITH TONOS,cIOTA WITH TONOS,38C:cOMICRON WITH TONOS,38E:cUPSILON WITH TONOS,cOMEGA WITH TONOS
aSMALL LETTER IOTA WITH DIALYTIKA AND TONOS,aCAPITAL LETTER ALPHA,cBETA,cGAMMA,cDELTA,cEPSILON
cZETA,cETA,cTHETA,cIOTA,cKAPPA,cLAMDA,cMU,cNU,cXI,cOMICRON,cPI,cRHO,3A3:cSIGMA,cTAU,cUPSILON,cPHI
cCHI,cPSI,cOMEGA,cIOTA WITH DIALYTIKA,cUPSILON WITH DIALYTIKA,aSMALL LETTER ALPHA WITH TONOS
cEPSILON WITH TONOS,cETA WITH TONOS,cIOTA WITH TONOS,cUPSILON WITH DIALYTIKA AND TONOS,cALPHA
cBETA,cGAMMA,cDELTA,cEPSILON,cZETA,cETA,cTHETA,cIOTA,cKAPPA,cLAMDA,cMU,cNU,cXI,cOMICRON,cPI,cRHO
cFINAL SIGMA,cSIGMA,cTAU,cUPSILON,cPHI,cCHI,cPSI,cOMEGA,cIOTA WITH DIALYTIKA
cUPSILON WITH DIALYTIKA,cOMICRON WITH TONOS,cUPSILON WITH TONOS,cOMEGA WITH TONOS
aCAPITAL KAI SYMBOL,aBETA SYMBOL,aTHETA SYMBOL,aUPSILON WITH HOOK SYMBOL,cACUTE AND HOOK SYMBOL
cDIAERESIS AND HOOK SYMBOL,aPHI SYMBOL,aPI SYMBOL,aKAI SYMBOL,aLETTER ARCHAIC KOPPA
aSMALL LETTER ARCHAIC KOPPA,aLETTER STIGMA,aSMALL LETTER STIGMA,aLETTER DIGAMMA
aSMALL LETTER DIGAMMA,aLETTER KOPPA,aSMALL LETTER KOPPA,aLETTER SAMPI,aSMALL LETTER SAMPI
COPTIC CAPITAL LETTER SHEI,aSMALL LETTER SHEI,aCAPITAL LETTER FEI,aSMALL LETTER FEI
aCAPITAL LETTER KHEI,aSMALL LETTER KHEI,aCAPITAL LETTER HORI,aSMALL LETTER HORI
aCAPITAL LETTER GANGIA,aSMALL LETTER GANGIA,aCAPITAL LETTER SHIMA,aSMALL LETTER SHIMA
aCAPITAL LETTER DEI,aSMALL LETTER DEI,GREEK KAPPA SYMBOL,aRHO SYMBOL,aLUNATE SIGMA SYMBOL
aLETTER YOT,aCAPITAL THETA SYMBOL,aLUNATE EPSILON SYMBOL,aREVERSED LUNATE EPSILON SYMBOL
aCAPITAL LETTER SHO,aSMALL LETTER SHO,aCAPITAL LUNATE SIGMA SYMBOL,bLETTER SAN,aSMALL LETTER SAN
aRHO WITH STROKE SYMBOL,aCAPITAL REVERSED LUNATE SIGMA SYMBOL,bDOTTED LUNATE SIGMA SYMBOL
bREVERSED DOTTED LUNATE SIGMA SYMBOL,CYRILLIC CAPITAL LETTER IE WITH GRAVE,cIO,cDJE,cGJE
cUKRAINIAN IE,cDZE,cBYELORUSSIAN-UKRAINIAN I,cYI,cJE,cLJE,cNJE,cTSHE,cKJE,cI WITH GRAVE,cSHORT U
cDZHE,cA,cBE,cVE,cGHE,cDE,cIE,cZHE,cZE,cI,cSHORT I,cKA,cEL,cEM,cEN,cO,cPE,cER,cES,cTE,cU,cEF,cHA
cTSE,cCHE,cSHA,cSHCHA,cHARD SIGN,cYERU,cSOFT SIGN,cE,cYU,cYA,aSMALL LETTER A,cBE,cVE,cGHE,cDE,cIE
cZHE,cZE,cI,cSHORT I,cKA,cEL,cEM,cEN,cO,cPE,cER,cES,cTE,cU,cEF,cHA,cTSE,cCHE,cSHA,cSHCHA
cHARD SIGN,cYERU,cSOFT SIGN,cE,cYU,cYA,cIE WITH GRAVE,cIO,cDJE,cGJE,cUKRAINIAN IE,cDZE
cBYELORUSSIAN-UKRAINIAN I,cYI,cJE,cLJE,cNJE,cTSHE,cKJE,cI WITH GRAVE,cSHORT U,cDZHE
aCAPITAL LETTER OMEGA,aSMALL LETTER OMEGA,aCAPITAL LETTER YAT,aSMALL LETTER YAT
aCAPITAL LETTER IOTIFIED E,aSMALL LETTER IOTIFIED E,aCAPITAL LETTER LITTLE YUS
aSMALL LETTER LITTLE YUS,aCAPITAL LETTER IOTIFIED LITTLE YUS,aSMALL LETTER IOTIFIED LITTLE YUS
aCAPITAL LETTER BIG YUS,aSMALL LETTER BIG YUS,aCAPITAL LETTER IOTIFIED BIG YUS
aSMALL LETTER IOTIFIED BIG YUS,aCAPITAL LETTER KSI,aSMALL LETTER KSI,aCAPITAL LETTER PSI
aSMALL LETTER PSI,aCAPITAL LETTER FITA,aSMALL LETTER FITA,aCAPITAL LETTER IZHITSA
aSMALL LETTER IZHITSA,aCAPITAL LETTER IZHITSA WITH DOUBLE GRAVE ACCENT
aSMALL LETTER IZHITSA WITH DOUBLE GRAVE ACCENT,aCAPITAL LETTER UK,aSMALL LETTER UK
aCAPITAL LETTER ROUND OMEGA,aSMALL LETTER ROUND OMEGA,aCAPITAL LETTER OMEGA WITH TITLO
aSMALL LETTER OMEGA WITH TITLO,aCAPITAL LETTER OT,aSMALL LETTER OT,aCAPITAL LETTER KOPPA
aSMALL LETTER KOPPA,aTHOUSANDS SIGN,COMBINING CYRILLIC TITLO,bPALATALIZATION,bDASIA PNEUMATA
bPSILI PNEUMATA,bPOKRYTIE,bHUNDRED THOUSANDS SIGN,bMILLIONS SIGN
CYRILLIC CAPITAL LETTER SHORT I WITH TAIL,aSMALL LETTER SHORT I WITH TAIL
aCAPITAL LETTER SEMISOFT SIGN,aSMALL LETTER SEMISOFT SIGN,aCAPITAL LETTER ER WITH TICK
aSMALL LETTER ER WITH TICK,aCAPITAL LETTER GHE WITH UPTURN,aSMALL LETTER GHE WITH UPTURN
aCAPITAL LETTER GHE WITH STROKE,aSMALL LETTER GHE WITH STROKE,aCAPITAL LETTER GHE WITH MIDDLE HOOK
aSMALL LETTER GHE WITH MIDDLE HOOK,aCAPITAL LETTER ZHE WITH DESCENDER
aSMALL LETTER ZHE WITH DESCENDER,aCAPITAL LETTER ZE WITH DESCENDER,aSMALL LETTER ZE WITH DESCENDER
aCAPITAL LETTER KA WITH DESCENDER,aSMALL LETTER KA WITH DESCENDER
aCAPITAL LETTER KA WITH VERTICAL STROKE,aSMALL LETTER KA WITH VERTICAL STROKE
aCAPITAL LETTER KA WITH STROKE,aSMALL LETTER KA WITH STROKE,aCAPITAL LETTER BASHKIR KA
aSMALL LETTER BASHKIR KA,aCAPITAL LETTER EN WITH DESCENDER,aSMALL LETTER EN WITH DESCENDER
aCAPITAL LIGATURE EN GHE,aSMALL LIGATURE EN GHE,aCAPITAL LETTER PE WITH MIDDLE HOOK
aSMALL LETTER PE WITH MIDDLE HOOK,aCAPITAL LETTER ABKHASIAN HA,aSMALL LETTER ABKHASIAN HA
aCAPITAL LETTER ES WITH DESCENDER,aSMALL LETTER ES WITH DESCENDER
aCAPITAL LETTER TE WITH DESCENDER,aSMALL LETTER TE WITH DESCENDER,aCAPITAL LETTER STRAIGHT U
aSMALL LETTER STRAIGHT U,aCAPITAL LETTER STRAIGHT U WITH STROKE
aSMALL LETTER STRAIGHT U WITH STROKE,aCAPITAL LETTER HA WITH DESCENDER
aSMALL LETTER HA WITH DESCENDER,aCAPITAL LIGATURE TE TSE,aSMALL LIGATURE TE TSE
aCAPITAL LETTER CHE WITH DESCENDER,aSMALL LETTER CHE WITH DESCENDER
aCAPITAL LETTER CHE WITH VERTICAL STROKE,aSMALL LETTER CHE WITH VERTICAL STROKE
aCAPITAL LETTER SHHA,aSMALL LETTER SHHA,aCAPITAL LETTER ABKHASIAN CHE,aSMALL LETTER ABKHASIAN CHE
aCAPITAL LETTER ABKHASIAN CHE WITH DESCENDER,aSMALL LETTER ABKHASIAN CHE WITH DESCENDER
aLETTER PALOCHKA,aCAPITAL LETTER ZHE WITH BREVE,aSMALL LETTER ZHE WITH BREVE
aCAPITAL LETTER KA WITH HOOK,aSMALL LETTER KA WITH HOOK,aCAPITAL LETTER EL WITH TAIL
aSMALL LETTER EL WITH TAIL,aCAPITAL LETTER EN WITH HOOK,aSMALL LETTER EN WITH HOOK
aCAPITAL LETTER EN WITH TAIL,aSMALL LETTER EN WITH TAIL,aCAPITAL LETTER KHAKASSIAN CHE
aSMALL LETTER KHAKASSIAN CHE,aCAPITAL LETTER EM WITH TAIL,aSMALL LETTER EM WITH TAIL,cPALOCHKA
aCAPITAL LETTER A WITH BREVE,aSMALL LETTER A WITH BREVE,aCAPITAL LETTER A WITH DIAERESIS
aSMALL LETTER A WITH DIAERESIS,aCAPITAL LIGATURE A IE,aSMALL LIGATURE A IE
aCAPITAL LETTER IE WITH BREVE,aSMALL LETTER IE WITH BREVE,aCAPITAL LETTER SCHWA
aSMALL LETTER SCHWA,aCAPITAL LETTER SCHWA WITH DIAERESIS,aSMALL LETTER SCHWA WITH DIAERESIS
aCAPITAL LETTER ZHE WITH DIAERESIS,aSMALL LETTER ZHE WITH DIAERESIS
aCAPITAL LETTER ZE WITH DIAERESIS,aSMALL LETTER ZE WITH DIAERESIS,aCAPITAL LETTER ABKHASIAN DZE
aSMALL LETTER ABKHASIAN DZE,aCAPITAL LETTER I WITH MACRON,aSMALL LETTER I WITH MACRON
aCAPITAL LETTER I WITH DIAERESIS,aSMALL LETTER I WITH DIAERESIS,aCAPITAL LETTER O WITH DIAERESIS
aSMALL LETTER O WITH DIAERESIS,aCAPITAL LETTER BARRED O,aSMALL LETTER BARRED O
aCAPITAL LETTER BARRED O WITH DIAERESIS,aSMALL LETTER BARRED O WITH DIAERESIS
aCAPITAL LETTER E WITH DIAERESIS,aSMALL LETTER E WITH DIAERESIS,aCAPITAL LETTER U WITH MACRON
aSMALL LETTER U WITH MACRON,aCAPITAL LETTER U WITH DIAERESIS,aSMALL LETTER U WITH DIAERESIS
aCAPITAL LETTER U WITH DOUBLE ACUTE,aSMALL LETTER U WITH DOUBLE ACUTE
aCAPITAL LETTER CHE WITH DIAERESIS,aSMALL LETTER CHE WITH DIAERESIS
aCAPITAL LETTER GHE WITH DESCENDER,aSMALL LETTER GHE WITH DESCENDER
aCAPITAL LETTER YERU WITH DIAERESIS,aSMALL LETTER YERU WITH DIAERESIS
aCAPITAL LETTER GHE WITH STROKE AND HOOK,aSMALL LETTER GHE WITH STROKE AND HOOK
aCAPITAL LETTER HA WITH HOOK,aSMALL LETTER HA WITH HOOK,aCAPITAL LETTER HA WITH STROKE
aSMALL LETTER HA WITH STROKE,aCAPITAL LETTER KOMI DE,aSMALL LETTER KOMI DE
aCAPITAL LETTER KOMI DJE,aSMALL LETTER KOMI DJE,aCAPITAL LETTER KOMI ZJE,aSMALL LETTER KOMI ZJE
aCAPITAL LETTER KOMI DZJE,aSMALL LETTER KOMI DZJE,aCAPITAL LETTER KOMI LJE,aSMALL LETTER KOMI LJE
aCAPITAL LETTER KOMI NJE,aSMALL LETTER KOMI NJE,aCAPITAL LETTER KOMI SJE,aSMALL LETTER KOMI SJE
aCAPITAL LETTER KOMI TJE,aSMALL LETTER KOMI TJE,aCAPITAL LETTER REVERSED ZE
aSMALL LETTER REVERSED ZE,aCAPITAL LETTER EL WITH HOOK,aSMALL LETTER EL WITH HOOK
aCAPITAL LETTER LHA,aSMALL LETTER LHA,aCAPITAL LETTER RHA,aSMALL LETTER RHA,aCAPITAL LETTER YAE
aSMALL LETTER YAE,aCAPITAL LETTER QA,aSMALL LETTER QA,aCAPITAL LETTER WE,aSMALL LETTER WE
aCAPITAL LETTER ALEUT KA,aSMALL LETTER ALEUT KA,aCAPITAL LETTER EL WITH MIDDLE HOOK
aSMALL LETTER EL WITH MIDDLE HOOK,aCAPITAL LETTER EN WITH MIDDLE HOOK
aSMALL LETTER EN WITH MIDDLE HOOK,aCAPITAL LETTER PE WITH DESCENDER
aSMALL LETTER PE WITH DESCENDER,aCAPITAL LETTER SHHA WITH DESCENDER
aSMALL LETTER SHHA WITH DESCENDER,aCAPITAL LETTER EN WITH LEFT HOOK
aSMALL LETTER EN WITH LEFT HOOK,aCAPITAL LETTER DZZHE,aSMALL LETTER DZZHE,aCAPITAL LETTER DCHE
aSMALL LETTER DCHE,aCAPITAL LETTER EL WITH DESCENDER,aSMALL LETTER EL WITH DESCENDER
531:ARMENIAN CAPITAL LETTER AYB,cBEN,cGIM,cDA,cECH,cZA,cEH,cET,cTO,cZHE,cINI,cLIWN,cXEH,cCA,cKEN
cHO,cJA,cGHAD,cCHEH,cMEN,cYI,cNOW,cSHA,cVO,cCHA,cPEH,cJHEH,cRA,cSEH,cVEW,cTIWN,cREH,cCO,cYIWN
cPIWR,cKEH,cOH,cFEH,559:aMODIFIER LETTER LEFT HALF RING,aAPOSTROPHE,aEMPHASIS MARK
aEXCLAMATION MARK,aCOMMA,aQUESTION MARK,aABBREVIATION MARK,aSMALL LETTER TURNED AYB,cAYB,cBEN,cGIM
cDA,cECH,cZA,cEH,cET,cTO,cZHE,cINI,cLIWN,cXEH,cCA,cKEN,cHO,cJA,cGHAD,cCHEH,cMEN,cYI,cNOW,cSHA,cVO
cCHA,cPEH,cJHEH,cRA,cSEH,cVEW,cTIWN,cREH,cCO,cYIWN,cPIWR,cKEH,cOH,cFEH,bLIGATURE ECH YIWN
bLETTER YI WITH STROKE,aFULL STOP,aHYPHEN,58D:RIGHT-FACING ARMENIAN ETERNITY SIGN
LEFT-FACING ARMENIAN ETERNITY SIGN,ARMENIAN DRAM SIGN,591:HEBREW ACCENT ETNAHTA,bSEGOL,bSHALSHELET
bZAQEF QATAN,cGADOL,bTIPEHA,bREVIA,bZARQA,bPASHTA,bYETIV,bTEVIR,bGERESH,cMUQDAM,bGERSHAYIM
bQARNEY PARA,bTELISHA GEDOLA,bPAZER,bATNAH HAFUKH,bMUNAH,bMAHAPAKH,bMERKHA,cKEFULA,bDARGA,bQADMA
bTELISHA QETANA,bYERAH BEN YOMO,bOLE,bILUY,bDEHI,bZINOR,aMARK MASORA CIRCLE,aPOINT SHEVA
bHATAF SEGOL,cPATAH,cQAMATS,bHIRIQ,bTSERE,bSEGOL,bPATAH,bQAMATS,bHOLAM,cHASER FOR VAV,bQUBUTS
bDAGESH OR MAPIQ,bMETEG,aPUNCTUATION MAQAF,aPOINT RAFE,aPUNCTUATION PASEQ,aPOINT SHIN DOT,bSIN DOT
aPUNCTUATION SOF PASUQ,aMARK UPPER DOT,bLOWER DOT,aPUNCTUATION NUN HAFUKHA,aPOINT QAMATS QATAN
5D0:aLETTER ALEF,bBET,bGIMEL,bDALET,bHE,bVAV,bZAYIN,bHET,bTET,bYOD,bFINAL KAF,bKAF,bLAMED
bFINAL MEM,bMEM,bFINAL NUN,bNUN,bSAMEKH,bAYIN,bFINAL PE,bPE,bFINAL TSADI,bTSADI,bQOF,bRESH,bSHIN
bTAV,5EF:aYOD TRIANGLE,aLIGATURE YIDDISH DOUBLE VAV,cVAV YOD,cDOUBLE YOD,aPUNCTUATION GERESH
bGERSHAYIM,600:ARABIC NUMBER SIGN,aSIGN SANAH,aFOOTNOTE MARKER,aSIGN SAFHA,bSAMVAT
aNUMBER MARK ABOVE,ARABIC-INDIC CUBE ROOT,aFOURTH ROOT,ARABIC RAY,ARABIC-INDIC PER MILLE SIGN
bTEN THOUSAND SIGN,AFGHANI SIGN,ARABIC COMMA,aDATE SEPARATOR,aPOETIC VERSE SIGN,aSIGN MISRA
bSALLALLAHOU ALAYHE WASSALLAM,bALAYHE ASSALLAM,bRAHMATULLAH ALAYHE,bRADI ALLAHOU ANHU,bTAKHALLUS
aSMALL HIGH TAH,cLIGATURE ALEF WITH LAM WITH YEH,cZAIN,bFATHA,bDAMMA,bKASRA,aSEMICOLON
aLETTER MARK,aEND OF TEXT MARK,aTRIPLE DOT PUNCTUATION MARK,aQUESTION MARK,aLETTER KASHMIRI YEH
bHAMZA,bALEF WITH MADDA ABOVE,dHAMZA ABOVE,bWAW WITH HAMZA ABOVE,bALEF WITH HAMZA BELOW
bYEH WITH HAMZA ABOVE,bALEF,bBEH,bTEH MARBUTA,c,bTHEH,bJEEM,bHAH,bKHAH,bDAL,bTHAL,bREH,bZAIN,bSEEN
bSHEEN,bSAD,bDAD,bTAH,bZAH,bAIN,bGHAIN,bKEHEH WITH TWO DOTS ABOVE,dTHREE DOTS BELOW
bFARSI YEH WITH INVERTED V,eTWO DOTS ABOVE,eTHREE DOTS ABOVE,aTATWEEL,aLETTER FEH,bQAF,bKAF,bLAM
bMEEM,bNOON,bHEH,bWAW,bALEF MAKSURA,bYEH,aFATHATAN,aDAMMATAN,aKASRATAN,aFATHA,aDAMMA,aKASRA
aSHADDA,aSUKUN,aMADDAH ABOVE,aHAMZA ABOVE,bBELOW,aSUBSCRIPT ALEF,aINVERTED DAMMA,aMARK NOON GHUNNA
aZWARAKAY,aVOWEL SIGN SMALL V ABOVE,cINVERTED SMALL V ABOVE,cDOT BELOW,aREVERSED DAMMA
aFATHA WITH TWO DOTS,aWAVY HAMZA BELOW,ARABIC-INDIC DIGIT ZERO,bONE,bTWO,bTHREE,bFOUR,bFIVE,bSIX
bSEVEN,bEIGHT,bNINE,ARABIC PERCENT SIGN,aDECIMAL SEPARATOR,aTHOUSANDS SEPARATOR,aFIVE POINTED STAR
aLETTER DOTLESS BEH,cQAF,bSUPERSCRIPT ALEF,bALEF WASLA,cWITH WAVY HAMZA ABOVE,fBELOW,bHIGH HAMZA
dALEF,dWAW,bU WITH HAMZA ABOVE,bHIGH HAMZA YEH,bTTEH,bTTEHEH,bBEEH,bTEH WITH RING
dTHREE DOTS ABOVE DOWNWARDS,bPEH,bTEHEH,bBEHEH,bHAH WITH HAMZA ABOVE,dTWO DOTS VERTICAL ABOVE
bNYEH,bDYEH,bHAH WITH THREE DOTS ABOVE,bTCHEH,bTCHEHEH,bDDAL,bDAL WITH RING,dDOT BELOW
fAND SMALL TAH,bDAHAL,bDDAHAL,bDUL,bDAL WITH THREE DOTS ABOVE DOWNWARDS,dFOUR DOTS ABOVE,bRREH
bREH WITH SMALL V,dRING,dDOT BELOW,dSMALL V BELOW,dDOT BELOW AND DOT ABOVE,dTWO DOTS ABOVE,bJEH
bREH WITH FOUR DOTS ABOVE,bSEEN WITH DOT BELOW AND DOT ABOVE,dTHREE DOTS BELOW
gAND THREE DOTS ABOVE,bSAD WITH TWO DOTS BELOW,dTHREE DOTS ABOVE,bTAH WITH THREE DOTS ABOVE
bAIN WITH THREE DOTS ABOVE,bDOTLESS FEH,bFEH WITH DOT MOVED BELOW,eBELOW,bVEH
bFEH WITH THREE DOTS BELOW,bPEHEH,bQAF WITH DOT ABOVE,dTHREE DOTS ABOVE,bKEHEH,bSWASH KAF
bKAF WITH RING,dDOT ABOVE,bNG,bKAF WITH THREE DOTS BELOW,bGAF,cWITH RING,bNGOEH
bGAF WITH TWO DOTS BELOW,bGUEH,bGAF WITH THREE DOTS ABOVE,bLAM WITH SMALL V,dDOT ABOVE
dTHREE DOTS ABOVE,fBELOW,bNOON WITH DOT BELOW,cGHUNNA,bRNOON,bNOON WITH RING,dTHREE DOTS ABOVE
bHEH DOACHASHMEE,bTCHEH WITH DOT ABOVE,bHEH WITH YEH ABOVE,cGOAL,dWITH HAMZA ABOVE
bTEH MARBUTA GOAL,bWAW WITH RING,bKIRGHIZ OE,bOE,bU,bYU,bKIRGHIZ YU,bWAW WITH TWO DOTS ABOVE,bVE
bFARSI YEH,bYEH WITH TAIL,dSMALL V,bWAW WITH DOT ABOVE,bE,bYEH WITH THREE DOTS BELOW,cBARREE
dWITH HAMZA ABOVE,aFULL STOP,aLETTER AE,aSMALL HIGH LIGATURE SAD WITH LAM WITH ALEF MAKSURA
dQAF WITH LAM WITH ALEF MAKSURA,cMEEM INITIAL FORM,cLAM ALEF,cJEEM,cTHREE DOTS,cSEEN,aEND OF AYAH
aSTART OF RUB EL HIZB,aSMALL HIGH ROUNDED ZERO,cUPRIGHT RECTANGULAR ZERO,cDOTLESS HEAD OF KHAH
cMEEM ISOLATED FORM,bLOW SEEN,bHIGH MADDA,bWAW,bYEH,bHIGH YEH,cNOON,aPLACE OF SAJDAH
aEMPTY CENTRE LOW STOP,cHIGH STOP,aROUNDED HIGH STOP WITH FILLED CENTRE,aSMALL LOW MEEM
aLETTER DAL WITH INVERTED V,bREH WITH INVERTED V,EXTENDED ARABIC-INDIC DIGIT ZERO,cONE,cTWO,cTHREE
cFOUR,cFIVE,cSIX,cSEVEN,cEIGHT,cNINE,ARABIC LETTER SHEEN WITH DOT BELOW,bDAD WITH DOT BELOW
bGHAIN WITH DOT BELOW,aSIGN SINDHI AMPERSAND,cPOSTPOSITION MEN,aLETTER HEH WITH INVERTED V
SYRIAC END OF PARAGRAPH,aSUPRALINEAR FULL STOP,aSUBLINEAR FULL STOP,aSUPRALINEAR COLON
aSUBLINEAR COLON,aHORIZONTAL COLON,aCOLON SKEWED LEFT,cRIGHT,aSUPRALINEAR COLON SKEWED LEFT
aSUBLINEAR COLON SKEWED RIGHT,aCONTRACTION,aHARKLEAN OBELUS,bMETOBELUS,bASTERISCUS
70F:aABBREVIATION MARK,aLETTER ALAPH,bSUPERSCRIPT ALAPH,bBETH,bGAMAL,cGARSHUNI,bDALATH
bDOTLESS DALATH RISH,bHE,bWAW,bZAIN,bHETH,bTETH,cGARSHUNI,bYUDH,cHE,bKAPH,bLAMADH,bMIM,bNUN
bSEMKATH,bFINAL SEMKATH,bE,bPE,bREVERSED PE,bSADHE,bQAPH,bRISH,bSHIN,bTAW,bPERSIAN BHETH,cGHAMAL
cDHALATH,aPTHAHA ABOVE,bBELOW,bDOTTED,aZQAPHA ABOVE,bBELOW,bDOTTED,aRBASA ABOVE,bBELOW
aDOTTED ZLAMA HORIZONTAL,cANGULAR,aHBASA ABOVE,bBELOW,aHBASA-ESASA DOTTED,aESASA ABOVE,bBELOW
aRWAHA,aFEMININE DOT,aQUSHSHAYA,aRUKKAKHA,aTWO VERTICAL DOTS ABOVE,dBELOW,aTHREE DOTS ABOVE,cBELOW
aOBLIQUE LINE ABOVE,cBELOW,aMUSIC,aBARREKH,74D:aLETTER SOGDIAN ZHAIN,cKHAPH,cFE
ARABIC LETTER BEH WITH THREE DOTS HORIZONTALLY BELOW,dDOT BELOW AND THREE DOTS ABOVE
dTHREE DOTS POINTING UPWARDS BELOW,iAND TWO DOTS ABOVE,dTWO DOTS BELOW AND DOT ABOVE
dINVERTED SMALL V BELOW,dSMALL V,bHAH WITH TWO DOTS ABOVE,dTHREE DOTS POINTING UPWARDS BELOW
bDAL WITH TWO DOTS VERTICALLY BELOW AND SMALL TAH,dINVERTED SMALL V BELOW,bREH WITH STROKE
bSEEN WITH FOUR DOTS ABOVE,bAIN WITH TWO DOTS ABOVE,dTHREE DOTS POINTING DOWNWARDS ABOVE
dTWO DOTS VERTICALLY ABOVE,bFEH WITH TWO DOTS BELOW,dTHREE DOTS POINTING UPWARDS BELOW
bKEHEH WITH DOT ABOVE,dTHREE DOTS ABOVE,fPOINTING UPWARDS BELOW,bMEEM WITH DOT ABOVE,eBELOW
bNOON WITH TWO DOTS BELOW,dSMALL TAH,eV,bLAM WITH BAR,bREH WITH TWO DOTS VERTICALLY ABOVE
dHAMZA ABOVE,bSEEN WITH TWO DOTS VERTICALLY ABOVE,bHAH WITH SMALL ARABIC LETTER TAH BELOW
hAND TWO DOTS,bSEEN WITH SMALL ARABIC LETTER TAH AND TWO DOTS
bREH WITH SMALL ARABIC LETTER TAH AND TWO DOTS,bHAH WITH SMALL ARABIC LETTER TAH ABOVE
bALEF WITH EXTENDED ARABIC-INDIC DIGIT TWO ABOVE,gTHREE ABOVE
bFARSI YEH WITH EXTENDED ARABIC-INDIC DIGIT TWO ABOVE,hTHREE ABOVE,hFOUR BELOW
bWAW WITH EXTENDED ARABIC-INDIC DIGIT TWO ABOVE,gTHREE ABOVE
bYEH BARREE WITH EXTENDED ARABIC-INDIC DIGIT TWO ABOVE,hTHREE ABOVE
bHAH WITH EXTENDED ARABIC-INDIC DIGIT FOUR BELOW,bSEEN WITH EXTENDED ARABIC-INDIC DIGIT FOUR ABOVE
dINVERTED V,bKAF WITH TWO DOTS ABOVE,THAANA LETTER HAA,bSHAVIYANI,bNOONU,bRAA,bBAA,bLHAVIYANI
bKAAFU,bALIFU,bVAAVU,bMEEMU,bFAAFU,bDHAALU,bTHAA,bLAAMU,bGAAFU,bGNAVIYANI,bSEENU,bDAVIYANI
bZAVIYANI,bTAVIYANI,bYAA,bPAVIYANI,bJAVIYANI,bCHAVIYANI,bTTAA,bHHAA,bKHAA,bTHAALU,bZAA,bSHEENU
bSAADHU,bDAADHU,bTO,bZO,bAINU,bGHAINU,bQAAFU,bWAAVU,aABAFILI,aAABAAFILI,aIBIFILI,aEEBEEFILI
aUBUFILI,aOOBOOFILI,aEBEFILI,aEYBEYFILI,aOBOFILI,aOABOAFILI,aSUKUN,aLETTER NAA,7C0:NKO DIGIT ZERO
bONE,bTWO,bTHREE,bFOUR,bFIVE,bSIX,bSEVEN,bEIGHT,bNINE,aLETTER A,bEE,bI,bE,bU,bOO,bO,bDAGBASINNA,bN
bBA,bPA,bTA,bJA,bCHA,bDA,bRA,bRRA,bSA,bGBA,bFA,bKA,bLA,bNA WOLOSO,bMA,bNYA,bNA,bHA,bWA,bYA
bNYA WOLOSO,bJONA JA,cCHA,cRA,aCOMBINING SHORT HIGH TONE,cLOW TONE,cRISING TONE
bLONG DESCENDING TONE,cHIGH TONE,cLOW TONE,cRISING TONE,bNASALIZATION MARK,bDOUBLE DOT ABOVE
aHIGH TONE APOSTROPHE,aLOW TONE APOSTROPHE,aSYMBOL OO DENNEN,bGBAKURUNEN,aCOMMA,aEXCLAMATION MARK
aLAJANYALAN,7FD:aDANTAYALAN,aDOROME SIGN,aTAMAN SIGN,SAMARITAN LETTER ALAF,bBIT,bGAMAN,bDALAT,bIY
bBAA,bZEN,bIT,bTIT,bYUT,bKAAF,bLABAT,bMIM,bNUN,bSINGAAT,bIN,bFI,bTSAADIY,bQUF,bRISH,bSHAN,bTAAF
aMARK IN,bIN-ALAF,bOCCLUSION,bDAGESH,aMODIFIER LETTER EPENTHETIC YUT,aMARK EPENTHETIC YUT
aVOWEL SIGN LONG E,cE,cOVERLONG AA,cLONG AA,cAA,cOVERLONG A,cLONG A,cA,aMODIFIER LETTER SHORT A
aVOWEL SIGN SHORT A,cLONG U,cU,aMODIFIER LETTER I,aVOWEL SIGN LONG I,cI,cO,cSUKUN,aMARK NEQUDAA
830:aPUNCTUATION NEQUDAA,bAFSAAQ,bANGED,bBAU,bATMAAU,bSHIYYAALAA,aABBREVIATION MARK
aPUNCTUATION MELODIC QITSA,bZIQAA,bQITSA,bZAEF,bTURU,bARKAANU,bSOF MASHFAAT,bANNAAU
840:MANDAIC LETTER HALQA,bAB,bAG,bAD,bAH,bUSHENNA,bAZ,bIT,bATT,bAKSA,bAK,bAL,bAM,bAN,bAS,bIN,bAP
bASZ,bAQ,bAR,bASH,bAT,bDUSHENNA,bKAD,bAIN,aAFFRICATION MARK,aVOCALIZATION MARK,aGEMINATION MARK
85E:aPUNCTUATION,860:SYRIAC LETTER MALAYALAM NGA,cJA,cNYA,cTTA,cNNA,cNNNA,cBHA,cRA,cLLA,cLLLA,cSSA
870:ARABIC LETTER ALEF WITH ATTACHED FATHA,eTOP RIGHT FATHA,dRIGHT MIDDLE STROKE
dLEFT MIDDLE STROKE,dATTACHED KASRA,eBOTTOM RIGHT KASRA,eROUND DOT ABOVE,eRIGHT ROUND DOT
eLEFT ROUND DOT,eROUND DOT BELOW,dDOT ABOVE,dATTACHED TOP RIGHT FATHA AND DOT ABOVE
dRIGHT MIDDLE STROKE AND DOT ABOVE,dATTACHED BOTTOM RIGHT KASRA AND DOT ABOVE
eTOP RIGHT FATHA AND LEFT RING,dRIGHT MIDDLE STROKE AND LEFT RING
dATTACHED BOTTOM RIGHT KASRA AND LEFT RING,eRIGHT HAMZA,eLEFT HAMZA,aTATWEEL WITH OVERSTRUCK HAMZA
dWAW,cTWO DOTS BELOW,aLETTER THIN YEH,aBASELINE ROUND DOT,aRAISED ROUND DOT
aLETTER NOON WITH INVERTED SMALL V,bHAH WITH INVERTED SMALL V BELOW,bTAH WITH DOT BELOW
dTHREE DOTS BELOW,bKEHEH WITH TWO DOTS VERTICALLY BELOW,aVERTICAL TAIL,890:aPOUND MARK ABOVE
aPIASTRE MARK ABOVE,898:aSMALL HIGH WORD AL-JUZ,bLOW WORD ISHMAAM,dIMAALA,dTASHEEL,aMADDA WAAJIB
aSUPERSCRIPT ALEF MOKHASSAS,aDOUBLED MADDA,aHALF MADDA OVER MADDA,aLETTER BEH WITH SMALL V BELOW
dHAMZA ABOVE,bJEEM WITH TWO DOTS ABOVE,bTAH WITH TWO DOTS ABOVE
bFEH WITH DOT BELOW AND THREE DOTS ABOVE,bQAF WITH DOT BELOW,bLAM WITH DOUBLE BAR
bMEEM WITH THREE DOTS ABOVE,bYEH WITH TWO DOTS BELOW AND HAMZA ABOVE,hDOT ABOVE,bREH WITH LOOP
bWAW WITH DOT WITHIN,bROHINGYA YEH,bLOW ALEF,bDAL WITH THREE DOTS BELOW,bSAD WITH THREE DOTS BELOW
bGAF WITH INVERTED STROKE,bSTRAIGHT WAW,bZAIN WITH INVERTED V ABOVE,bAIN WITH THREE DOTS BELOW
bKAF WITH DOT BELOW,bQAF WITH DOT BELOW AND NO DOTS ABOVE,bBEH WITH SMALL MEEM ABOVE
bPEH WITH SMALL MEEM ABOVE,bTEH WITH SMALL TEH ABOVE,bREH WITH SMALL NOON ABOVE
bYEH WITH TWO DOTS BELOW AND SMALL NOON ABOVE,bAFRICAN FEH,cQAF,cNOON,bPEH WITH SMALL V
bTEH WITH SMALL V,bTTEH WITH SMALL V,bTCHEH WITH SMALL V,bKEHEH WITH SMALL V
bGHAIN WITH THREE DOTS ABOVE,bAFRICAN QAF WITH THREE DOTS ABOVE,bJEEM WITH THREE DOTS ABOVE,fBELOW
bLAM WITH SMALL ARABIC LETTER TAH ABOVE,bGRAF,aSMALL FARSI YEH,bHIGH FARSI YEH
cYEH BARREE WITH TWO DOTS BELOW,cWORD SAH,cZAH,aLARGE ROUND DOT ABOVE,dBELOW,aSUKUN BELOW
aLARGE CIRCLE BELOW,bROUND DOT INSIDE CIRCLE BELOW,aSMALL LOW WAW,bHIGH WORD AR-RUB,cSAD,cAIN,cQAF
cNOON WITH KASRA,bLOW NOON WITH KASRA,bHIGH WORD ATH-THALATHA,dAS-SAJDA,dAN-NISF,dSAKTA,dQIF
dWAQFA,cFOOTNOTE MARKER,cSIGN SAFHA,aDISPUTED END OF AYAH,aTURNED DAMMA BELOW,aCURLY FATHA,bDAMMA
bKASRA,bFATHATAN,bDAMMATAN,bKASRATAN,aTONE ONE DOT ABOVE,bTWO DOTS ABOVE,bLOOP ABOVE
bONE DOT BELOW,bTWO DOTS BELOW,bLOOP BELOW,aOPEN FATHATAN,bDAMMATAN,bKASRATAN,aSMALL HIGH WAW
aFATHA WITH RING,cDOT ABOVE,aKASRA WITH DOT BELOW,aLEFT ARROWHEAD ABOVE,aRIGHT ARROWHEAD ABOVE
aLEFT ARROWHEAD BELOW,aRIGHT ARROWHEAD BELOW,aDOUBLE RIGHT ARROWHEAD ABOVE,eWITH DOT
aRIGHT ARROWHEAD ABOVE WITH DOT,aDAMMA WITH DOT,aMARK SIDEWAYS NOON GHUNNA
DEVANAGARI SIGN INVERTED CANDRABINDU,bCANDRABINDU,bANUSVARA,bVISARGA,aLETTER SHORT A,bA,bAA,bI,bII
bU,bUU,bVOCALIC R,cL,bCANDRA E,bSHORT E,bE,bAI,bCANDRA O,bSHORT O,bO,bAU,bKA,bKHA,bGA,bGHA,bNGA
bCA,bCHA,bJA,bJHA,bNYA,bTTA,bTTHA,bDDA,bDDHA,bNNA,bTA,bTHA,bDA,bDHA,bNA,bNNNA,bPA,bPHA,bBA,bBHA
bMA,bYA,bRA,bRRA,bLA,bLLA,bLLLA,bVA,bSHA,bSSA,bSA,bHA,aVOWEL SIGN OE,cOOE,aSIGN NUKTA,bAVAGRAHA
aVOWEL SIGN AA,cI,cII,cU,cUU,cVOCALIC R,dRR,cCANDRA E,cSHORT E,cE,cAI,cCANDRA O,cSHORT O,cO,cAU
aSIGN VIRAMA,aVOWEL SIGN PRISHTHAMATRA E,cAW,aOM,aSTRESS SIGN UDATTA,cANUDATTA,aGRAVE ACCENT
aACUTE ACCENT,aVOWEL SIGN CANDRA LONG E,cUE,cUUE,aLETTER QA,bKHHA,bGHHA,bZA,bDDDHA,bRHA,bFA,bYYA
bVOCALIC RR,cLL,aVOWEL SIGN VOCALIC L,dLL,aDANDA,aDOUBLE DANDA,aDIGIT ZERO,bONE,bTWO,bTHREE,bFOUR
bFIVE,bSIX,bSEVEN,bEIGHT,bNINE,aABBREVIATION SIGN,aSIGN HIGH SPACING DOT,aLETTER CANDRA A,bOE,bOOE
bAW,bUE,bUUE,bMARWARI DDA,bZHA,bHEAVY YA,bGGA,bJJA,bGLOTTAL STOP,bDDDA,bBBA,BENGALI ANJI
aSIGN CANDRABINDU,bANUSVARA,bVISARGA,985:aLETTER A,bAA,bI,bII,bU,bUU,bVOCALIC R,cL,98F:bE,bAI
993:bO,bAU,bKA,bKHA,bGA,bGHA,bNGA,bCA,bCHA,bJA,bJHA,bNYA,bTTA,bTTHA,bDDA,bDDHA,bNNA,bTA,bTHA,bDA
bDHA,bNA,9AA:bPA,bPHA,bBA,bBHA,bMA,bYA,bRA,9B2:bLA,9B6:bSHA,bSSA,bSA,bHA,9BC:aSIGN NUKTA,bAVAGRAHA
aVOWEL SIGN AA,cI,cII,cU,cUU,cVOCALIC R,dRR,9C7:cE,cAI,9CB:cO,cAU,aSIGN VIRAMA,aLETTER KHANDA TA
9D7:aAU LENGTH MARK,9DC:aLETTER RRA,bRHA,9DF:bYYA,bVOCALIC RR,cLL,aVOWEL SIGN VOCALIC L,dLL
9E6:aDIGIT ZERO,bONE,bTWO,bTHREE,bFOUR,bFIVE,bSIX,bSEVEN,bEIGHT,bNINE
aLETTER RA WITH MIDDLE DIAGONAL,dLOWER DIAGONAL,aRUPEE MARK,bSIGN,aCURRENCY NUMERATOR ONE,cTWO
cTHREE,cFOUR,cONE LESS THAN THE DENOMINATOR,bDENOMINATOR SIXTEEN,aISSHAR,aGANDA MARK
aLETTER VEDIC ANUSVARA,aABBREVIATION SIGN,aSANDHI MARK,A01:GURMUKHI SIGN ADAK BINDI,bBINDI
bVISARGA,A05:aLETTER A,bAA,bI,bII,bU,bUU,A0F:bEE,bAI,A13:bOO,bAU,bKA,bKHA,bGA,bGHA,bNGA,bCA,bCHA
bJA,bJHA,bNYA,bTTA,bTTHA,bDDA,bDDHA,bNNA,bTA,bTHA,bDA,bDHA,bNA,A2A:bPA,bPHA,bBA,bBHA,bMA,bYA,bRA
A32:bLA,bLLA,A35:bVA,bSHA,A38:bSA,bHA,A3C:aSIGN NUKTA,A3E:aVOWEL SIGN AA,cI,cII,cU,cUU,A47:cEE,cAI
A4B:cOO,cAU,aSIGN VIRAMA,A51:bUDAAT,A59:aLETTER KHHA,bGHHA,bZA,bRRA,A5E:bFA,A66:aDIGIT ZERO,bONE
bTWO,bTHREE,bFOUR,bFIVE,bSIX,bSEVEN,bEIGHT,bNINE,aTIPPI,aADDAK,aIRI,aURA,aEK ONKAR,aSIGN YAKASH
aABBREVIATION SIGN,A81:GUJARATI SIGN CANDRABINDU,bANUSVARA,bVISARGA,A85:aLETTER A,bAA,bI,bII,bU
bUU,bVOCALIC R,cL,aVOWEL CANDRA E,A8F:aLETTER E,bAI,aVOWEL CANDRA O,A93:aLETTER O,bAU,bKA,bKHA,bGA
bGHA,bNGA,bCA,bCHA,bJA,bJHA,bNYA,bTTA,bTTHA,bDDA,bDDHA,bNNA,bTA,bTHA,bDA,bDHA,bNA,AAA:bPA,bPHA,bBA
bBHA,bMA,bYA,bRA,AB2:bLA,bLLA,AB5:bVA,bSHA,bSSA,bSA,bHA,ABC:aSIGN NUKTA,bAVAGRAHA,aVOWEL SIGN AA
cI,cII,cU,cUU,cVOCALIC R,dRR,cCANDRA E,AC7:cE,cAI,cCANDRA O,ACB:cO,cAU,aSIGN VIRAMA,AD0:aOM
AE0:aLETTER VOCALIC RR,cLL,aVOWEL SIGN VOCALIC L,dLL,AE6:aDIGIT ZERO,bONE,bTWO,bTHREE,bFOUR,bFIVE
bSIX,bSEVEN,bEIGHT,bNINE,aABBREVIATION SIGN,aRUPEE SIGN,AF9:aLETTER ZHA,aSIGN SUKUN,bSHADDA
bMADDAH,bTHREE-DOT NUKTA ABOVE,bCIRCLE NUKTA ABOVE,bTWO-CIRCLE NUKTA ABOVE
B01:ORIYA SIGN CANDRABINDU,bANUSVARA,bVISARGA,B05:aLETTER A,bAA,bI,bII,bU,bUU,bVOCALIC R,cL,B0F:bE
bAI,B13:bO,bAU,bKA,bKHA,bGA,bGHA,bNGA,bCA,bCHA,bJA,bJHA,bNYA,bTTA,bTTHA,bDDA,bDDHA,bNNA,bTA,bTHA
bDA,bDHA,bNA,B2A:bPA,bPHA,bBA,bBHA,bMA,bYA,bRA,B32:bLA,bLLA,B35:bVA,bSHA,bSSA,bSA,bHA
B3C:aSIGN NUKTA,bAVAGRAHA,aVOWEL SIGN AA,cI,cII,cU,cUU,cVOCALIC R,dRR,B47:cE,cAI,B4B:cO,cAU
aSIGN VIRAMA,B55:bOVERLINE,aAI LENGTH MARK,aAU LENGTH MARK,B5C:aLETTER RRA,bRHA,B5F:bYYA
bVOCALIC RR,cLL,aVOWEL SIGN VOCALIC L,dLL,B66:aDIGIT ZERO,bONE,bTWO,bTHREE,bFOUR,bFIVE,bSIX,bSEVEN
bEIGHT,bNINE,aISSHAR,aLETTER WA,aFRACTION ONE QUARTER,cHALF,bTHREE QUARTERS,bONE SIXTEENTH,cEIGHTH
bTHREE SIXTEENTHS,B82:TAMIL SIGN ANUSVARA,bVISARGA,B85:aLETTER A,bAA,bI,bII,bU,bUU,B8E:bE,bEE,bAI
B92:bO,bOO,bAU,bKA,B99:bNGA,bCA,B9C:bJA,B9E:bNYA,bTTA,BA3:bNNA,bTA,BA8:bNA,bNNNA,bPA,BAE:bMA,bYA
bRA,bRRA,bLA,bLLA,bLLLA,bVA,bSHA,bSSA,bSA,bHA,BBE:aVOWEL SIGN AA,cI,cII,cU,cUU,BC6:cE,cEE,cAI
BCA:cO,cOO,cAU,aSIGN VIRAMA,BD0:aOM,BD7:aAU LENGTH MARK,BE6:aDIGIT ZERO,bONE,bTWO,bTHREE,bFOUR
bFIVE,bSIX,bSEVEN,bEIGHT,bNINE,aNUMBER TEN,bONE HUNDRED,cTHOUSAND,aDAY SIGN,aMONTH SIGN,aYEAR SIGN
aDEBIT SIGN,aCREDIT SIGN,aAS ABOVE SIGN,aRUPEE SIGN,aNUMBER SIGN
C00:TELUGU SIGN COMBINING CANDRABINDU ABOVE,bCANDRABINDU,bANUSVARA,bVISARGA
bCOMBINING ANUSVARA ABOVE,aLETTER A,bAA,bI,bII,bU,bUU,bVOCALIC R,cL,C0E:bE,bEE,bAI,C12:bO,bOO,bAU
bKA,bKHA,bGA,bGHA,bNGA,bCA,bCHA,bJA,bJHA,bNYA,bTTA,bTTHA,bDDA,bDDHA,bNNA,bTA,bTHA,bDA,bDHA,bNA
C2A:bPA,bPHA,bBA,bBHA,bMA,bYA,bRA,bRRA,bLA,bLLA,bLLLA,bVA,bSHA,bSSA,bSA,bHA,C3C:aSIGN NUKTA
bAVAGRAHA,aVOWEL SIGN AA,cI,cII,cU,cUU,cVOCALIC R,dRR,C46:cE,cEE,cAI,C4A:cO,cOO,cAU,aSIGN VIRAMA
C55:aLENGTH MARK,aAI LENGTH MARK,C58:aLETTER TSA,bDZA,bRRRA,C5D:bNAKAARA POLLU,C60:bVOCALIC RR,cLL
aVOWEL SIGN VOCALIC L,dLL,C66:aDIGIT ZERO,bONE,bTWO,bTHREE,bFOUR,bFIVE,bSIX,bSEVEN,bEIGHT,bNINE
C77:aSIGN SIDDHAM,aFRACTION DIGIT ZERO FOR ODD POWERS OF FOUR,cONE FOR ODD POWERS OF FOUR
cTWO FOR ODD POWERS OF FOUR,cTHREE FOR ODD POWERS OF FOUR,cONE FOR EVEN POWERS OF FOUR
cTWO FOR EVEN POWERS OF FOUR,cTHREE FOR EVEN POWERS OF FOUR,aSIGN TUUMU
KANNADA SIGN SPACING CANDRABINDU,bCANDRABINDU,bANUSVARA,bVISARGA,bSIDDHAM,aLETTER A,bAA,bI,bII,bU
bUU,bVOCALIC R,cL,C8E:bE,bEE,bAI,C92:bO,bOO,bAU,bKA,bKHA,bGA,bGHA,bNGA,bCA,bCHA,bJA,bJHA,bNYA,bTTA
bTTHA,bDDA,bDDHA,bNNA,bTA,bTHA,bDA,bDHA,bNA,CAA:bPA,bPHA,bBA,bBHA,bMA,bYA,bRA,bRRA,bLA,bLLA
CB5:bVA,bSHA,bSSA,bSA,bHA,CBC:aSIGN NUKTA,bAVAGRAHA,aVOWEL SIGN AA,cI,cII,cU,cUU,cVOCALIC R,dRR
CC6:cE,cEE,cAI,CCA:cO,cOO,cAU,aSIGN VIRAMA,CD5:aLENGTH MARK,aAI LENGTH MARK
CDD:aLETTER NAKAARA POLLU,bFA,CE0:bVOCALIC RR,cLL,aVOWEL SIGN VOCALIC L,dLL,CE6:aDIGIT ZERO,bONE
bTWO,bTHREE,bFOUR,bFIVE,bSIX,bSEVEN,bEIGHT,bNINE,CF1:aSIGN JIHVAMULIYA,bUPADHMANIYA
D00:MALAYALAM SIGN COMBINING ANUSVARA ABOVE,bCANDRABINDU,bANUSVARA,bVISARGA,aLETTER VEDIC ANUSVARA
bA,bAA,bI,bII,bU,bUU,bVOCALIC R,cL,D0E:bE,bEE,bAI,D12:bO,bOO,bAU,bKA,bKHA,bGA,bGHA,bNGA,bCA,bCHA
bJA,bJHA,bNYA,bTTA,bTTHA,bDDA,bDDHA,bNNA,bTA,bTHA,bDA,bDHA,bNA,bNNNA,bPA,bPHA,bBA,bBHA,bMA,bYA,bRA
bRRA,bLA,bLLA,bLLLA,bVA,bSHA,bSSA,bSA,bHA,bTTTA,aSIGN VERTICAL BAR VIRAMA,bCIRCULAR VIRAMA
bAVAGRAHA,aVOWEL SIGN AA,cI,cII,cU,cUU,cVOCALIC R,dRR,D46:cE,cEE,cAI,D4A:cO,cOO,cAU,aSIGN VIRAMA
aLETTER DOT REPH,aSIGN PARA,D54:aLETTER CHILLU M,cY,cLLL,aAU LENGTH MARK
aFRACTION ONE ONE-HUNDRED-AND-SIXTIETH,cFORTIETH,bTHREE EIGHTIETHS,bONE TWENTIETH,cTENTH
bTHREE TWENTIETHS,bONE FIFTH,aLETTER ARCHAIC II,bVOCALIC RR,cLL,aVOWEL SIGN VOCALIC L,dLL
D66:aDIGIT ZERO,bONE,bTWO,bTHREE,bFOUR,bFIVE,bSIX,bSEVEN,bEIGHT,bNINE,aNUMBER TEN,bONE HUNDRED
cTHOUSAND,aFRACTION ONE QUARTER,cHALF,bTHREE QUARTERS,bONE SIXTEENTH,cEIGHTH,bTHREE SIXTEENTHS
aDATE MARK,aLETTER CHILLU NN,cN,cRR,cL,cLL,cK,D81:SINHALA SIGN CANDRABINDU,bANUSVARAYA,bVISARGAYA
D85:aLETTER AYANNA,bAAYANNA,bAEYANNA,bAEEYANNA,bIYANNA,bIIYANNA,bUYANNA,bUUYANNA,bIRUYANNA
bIRUUYANNA,bILUYANNA,bILUUYANNA,bEYANNA,bEEYANNA,bAIYANNA,bOYANNA,bOOYANNA,bAUYANNA
D9A:bALPAPRAANA KAYANNA,bMAHAAPRAANA KAYANNA,bALPAPRAANA GAYANNA,bMAHAAPRAANA GAYANNA
bKANTAJA NAASIKYAYA,bSANYAKA GAYANNA,bALPAPRAANA CAYANNA,bMAHAAPRAANA CAYANNA,bALPAPRAANA JAYANNA
bMAHAAPRAANA JAYANNA,bTAALUJA NAASIKYAYA,cSANYOOGA NAAKSIKYAYA,bSANYAKA JAYANNA
bALPAPRAANA TTAYANNA,bMAHAAPRAANA TTAYANNA,bALPAPRAANA DDAYANNA,bMAHAAPRAANA DDAYANNA
bMUURDHAJA NAYANNA,bSANYAKA DDAYANNA,bALPAPRAANA TAYANNA,bMAHAAPRAANA TAYANNA,bALPAPRAANA DAYANNA
bMAHAAPRAANA DAYANNA,bDANTAJA NAYANNA,DB3:bSANYAKA DAYANNA,bALPAPRAANA PAYANNA
bMAHAAPRAANA PAYANNA,bALPAPRAANA BAYANNA,bMAHAAPRAANA BAYANNA,bMAYANNA,bAMBA BAYANNA,bYAYANNA
bRAYANNA,DBD:bDANTAJA LAYANNA,DC0:bVAYANNA,bTAALUJA SAYANNA,bMUURDHAJA SAYANNA,bDANTAJA SAYANNA
bHAYANNA,bMUURDHAJA LAYANNA,bFAYANNA,DCA:aSIGN AL-LAKUNA,DCF:aVOWEL SIGN AELA-PILLA
cKETTI AEDA-PILLA,cDIGA AEDA-PILLA,cKETTI IS-PILLA,cDIGA IS-PILLA,cKETTI PAA-PILLA
DD6:cDIGA PAA-PILLA,DD8:cGAETTA-PILLA,cKOMBUVA,cDIGA KOMBUVA,cKOMBU DEKA,cKOMBUVA HAA AELA-PILLA
eDIGA AELA-PILLA,eGAYANUKITTA,cGAYANUKITTA,DE6:aLITH DIGIT ZERO,cONE,cTWO,cTHREE,cFOUR,cFIVE,cSIX
cSEVEN,cEIGHT,cNINE,DF2:aVOWEL SIGN DIGA GAETTA-PILLA,dGAYANUKITTA,aPUNCTUATION KUNDDALIYA
E01:THAI CHARACTER KO KAI,bKHO KHAI,cKHUAT,cKHWAI,cKHON,cRAKHANG,bNGO NGU,bCHO CHAN,cCHING,cCHANG
bSO SO,bCHO CHOE,bYO YING,bDO CHADA,bTO PATAK,bTHO THAN,cNANGMONTHO,cPHUTHAO,bNO NEN,bDO DEK
bTO TAO,bTHO THUNG,cTHAHAN,cTHONG,bNO NU,bBO BAIMAI,bPO PLA,bPHO PHUNG,bFO FA,bPHO PHAN,bFO FAN
bPHO SAMPHAO,bMO MA,bYO YAK,bRO RUA,bRU,bLO LING,bLU,bWO WAEN,bSO SALA,cRUSI,cSUA,bHO HIP
bLO CHULA,bO ANG,bHO NOKHUK,bPAIYANNOI,bSARA A,bMAI HAN-AKAT,bSARA AA,cAM,cI,cII,cUE,cUEE,cU,cUU
bPHINTHU,E3F:aCURRENCY SYMBOL BAHT,aCHARACTER SARA E,cAE,cO,cAI MAIMUAN,dMAIMALAI,bLAKKHANGYAO
bMAIYAMOK,bMAITAIKHU,bMAI EK,cTHO,cTRI,cCHATTAWA,bTHANTHAKHAT,bNIKHAHIT,bYAMAKKAN,bFONGMAN
aDIGIT ZERO,bONE,bTWO,bTHREE,bFOUR,bFIVE,bSIX,bSEVEN,bEIGHT,bNINE,aCHARACTER ANGKHANKHU,bKHOMUT
E81:LAO LETTER KO,bKHO SUNG,E84:cTAM,E86:bPALI GHA,bNGO,bCO,bPALI CHA,bSO TAM,E8C:bPALI JHA,bNYO
bPALI NYA,cTTA,cTTHA,cDDA,cDDHA,cNNA,bDO,bTO,bTHO SUNG,cTAM,bPALI DHA,bNO,bBO,bPO,bPHO SUNG
bFO TAM,bPHO TAM,bFO SUNG,bPALI BHA,bMO,bYO,bLO LING,EA5:cLOOT,EA7:bWO,bSANSKRIT SHA,cSSA,bSO SUNG
bHO SUNG,bPALI LLA,bO,bHO TAM,aELLIPSIS,aVOWEL SIGN A,cMAI KAN,cAA,cAM,cI,cII,cY,cYY,cU,cUU
aSIGN PALI VIRAMA,aVOWEL SIGN MAI KON,aSEMIVOWEL SIGN LO,cNYO,EC0:aVOWEL SIGN E,cEI,cO,cAY,cAI
EC6:aKO LA,EC8:aTONE MAI EK,cTHO,cTI,cCATAWA,aCANCELLATION MARK,aNIGGAHITA,ED0:aDIGIT ZERO,bONE
bTWO,bTHREE,bFOUR,bFIVE,bSIX,bSEVEN,bEIGHT,bNINE,EDC:aHO NO,bMO,aLETTER KHMU GO,cNYO
F00:TIBETAN SYLLABLE OM,aMARK GTER YIG MGO TRUNCATED A,e-UM RNAM BCAD MA,fGTER TSHEG MA
bINITIAL YIG MGO MDUN MA,bCLOSING YIG MGO SGAB MA,bCARET YIG MGO PHUR SHAD MA
bYIG MGO TSHEG SHAD MA,bSBRUL SHAD,bBSKUR YIG MGO,bBKA- SHOG YIG MGO,bINTERSYLLABIC TSHEG
bDELIMITER TSHEG BSTAR,bSHAD,bNYIS SHAD,bTSHEG SHAD,bNYIS TSHEG SHAD,bRIN CHEN SPUNGS SHAD
bRGYA GRAM SHAD,bCARET -DZUD RTAGS ME LONG CAN,bGTER TSHEG,aLOGOTYPE SIGN CHAD RTAGS,cLHAG RTAGS
aASTROLOGICAL SIGN SGRA GCAN -CHAR RTAGS,c-KHYUD PA,cSDONG TSHUGS,aSIGN RDEL DKAR GCIG,dGNYIS
dGSUM,cNAG GCIG,dGNYIS,cDKAR RDEL NAG,aDIGIT ZERO,bONE,bTWO,bTHREE,bFOUR,bFIVE,bSIX,bSEVEN,bEIGHT
bNINE,bHALF ONE,cTWO,cTHREE,cFOUR,cFIVE,cSIX,cSEVEN,cEIGHT,cNINE,cZERO,aMARK BSDUS RTAGS
bNGAS BZUNG NYI ZLA,bCARET -DZUD RTAGS BZHI MIG CAN,bNGAS BZUNG SGOR RTAGS,bCHE MGO,bTSA -PHRU
bGUG RTAGS GYON,dGYAS,bANG KHANG GYON,dGYAS,aSIGN YAR TSHES,bMAR TSHES,aLETTER KA,bKHA,bGA,bGHA
bNGA,bCA,bCHA,bJA,F49:bNYA,bTTA,bTTHA,bDDA,bDDHA,bNNA,bTA,bTHA,bDA,bDHA,bNA,bPA,bPHA,bBA,bBHA,bMA
bTSA,bTSHA,bDZA,bDZHA,bWA,bZHA,bZA,b-A,bYA,bRA,bLA,bSHA,bSSA,bSA,bHA,bA,bKSSA,bFIXED-FORM RA,bKKA
bRRA,F71:aVOWEL SIGN AA,cI,cII,cU,cUU,cVOCALIC R,dRR,dL,dLL,cE,cEE,cO,cOO,aSIGN RJES SU NGA RO
bRNAM BCAD,aVOWEL SIGN REVERSED I,dII,aSIGN NYI ZLA NAA DA,bSNA LDAN,aMARK HALANTA,bPALUTA
aSIGN LCI RTAGS,bYANG RTAGS,bLCE TSA CAN,bMCHU CAN,bGRU CAN RGYINGS,cMED RGYINGS
bINVERTED MCHU CAN,aSUBJOINED SIGN LCE TSA CAN,cMCHU CAN,cINVERTED MCHU CAN,bLETTER KA,cKHA,cGA
cGHA,cNGA,cCA,cCHA,cJA,F99:cNYA,cTTA,cTTHA,cDDA,cDDHA,cNNA,cTA,cTHA,cDA,cDHA,cNA,cPA,cPHA,cBA,cBHA
cMA,cTSA,cTSHA,cDZA,cDZHA,cWA,cZHA,cZA,c-A,cYA,cRA,cLA,cSHA,cSSA,cSA,cHA,cA,cKSSA,cFIXED-FORM WA
dYA,dRA,FBE:aKU RU KHA,dBZHI MIG CAN,aCANTILLATION SIGN HEAVY BEAT,cLIGHT BEAT,cCANG TE-U
cSBUB -CHAL,aSYMBOL DRIL BU,bRDO RJE,bPADMA GDAN,bRDO RJE RGYA GRAM,bPHUR PA,bNOR BU,dNYIS -KHYIL
dGSUM -KHYIL,dBZHI -KHYIL,FCE:aSIGN RDEL NAG RDEL DKAR,dGSUM,aMARK BSKA- SHOG GI MGO RGYAN
bMNYAM YIG GI MGO RGYAN,bNYIS TSHEG,bINITIAL BRDA RNYING YIG MGO MDUN MA
bCLOSING BRDA RNYING YIG MGO SGAB MA,RIGHT-FACING SVASTI SIGN,LEFT-FACING SVASTI SIGN
RIGHT-FACING SVASTI SIGN WITH DOTS,LEFT-FACING SVASTI SIGN WITH DOTS
TIBETAN MARK LEADING MCHAN RTAGS,bTRAILING MCHAN RTAGS"

end RasterAlgebra.Text.CharacterName
