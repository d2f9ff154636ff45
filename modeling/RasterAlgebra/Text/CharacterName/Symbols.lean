/-!
# Names of punctuation and symbols

Unicode 14, U+2000 to U+2FFF: punctuation, currencies, arrows, mathematical and technical signs,
shapes, Braille, and the radicals of ideographs.
-/

namespace RasterAlgebra.Text.CharacterName

/-- Entries of a table of names. -/
def symbols : String := "
2000:EN QUAD,EM QUAD,EN SPACE,EM SPACE,THREE-PER-EM SPACE,FOUR-PER-EM SPACE,SIX-PER-EM SPACE
FIGURE SPACE,PUNCTUATION SPACE,THIN SPACE,HAIR SPACE,ZERO WIDTH SPACE,bNON-JOINER,bJOINER
LEFT-TO-RIGHT MARK,RIGHT-TO-LEFT MARK,HYPHEN,NON-BREAKING HYPHEN,FIGURE DASH,EN DASH,EM DASH
HORIZONTAL BAR,DOUBLE VERTICAL LINE,aLOW LINE,LEFT SINGLE QUOTATION MARK
RIGHT SINGLE QUOTATION MARK,SINGLE LOW-9 QUOTATION MARK,aHIGH-REVERSED-9 QUOTATION MARK
LEFT DOUBLE QUOTATION MARK,RIGHT DOUBLE QUOTATION MARK,DOUBLE LOW-9 QUOTATION MARK
aHIGH-REVERSED-9 QUOTATION MARK,DAGGER,DOUBLE DAGGER,BULLET,TRIANGULAR BULLET,ONE DOT LEADER
TWO DOT LEADER,HORIZONTAL ELLIPSIS,HYPHENATION POINT,LINE SEPARATOR,PARAGRAPH SEPARATOR
LEFT-TO-RIGHT EMBEDDING,RIGHT-TO-LEFT EMBEDDING,POP DIRECTIONAL FORMATTING,LEFT-TO-RIGHT OVERRIDE
RIGHT-TO-LEFT OVERRIDE,NARROW NO-BREAK SPACE,PER MILLE SIGN,aTEN THOUSAND SIGN,PRIME,DOUBLE PRIME
TRIPLE PRIME,REVERSED PRIME,aDOUBLE PRIME,aTRIPLE PRIME,CARET
SINGLE LEFT-POINTING ANGLE QUOTATION MARK,aRIGHT-POINTING ANGLE QUOTATION MARK,REFERENCE MARK
DOUBLE EXCLAMATION MARK,INTERROBANG,OVERLINE,UNDERTIE,CHARACTER TIE,CARET INSERTION POINT,ASTERISM
HYPHEN BULLET,FRACTION SLASH,LEFT SQUARE BRACKET WITH QUILL,RIGHT SQUARE BRACKET WITH QUILL
DOUBLE QUESTION MARK,QUESTION EXCLAMATION MARK,EXCLAMATION QUESTION MARK,TIRONIAN SIGN ET
REVERSED PILCROW SIGN,BLACK LEFTWARDS BULLET,aRIGHTWARDS BULLET,LOW ASTERISK,REVERSED SEMICOLON
CLOSE UP,TWO ASTERISKS ALIGNED VERTICALLY,COMMERCIAL MINUS SIGN,SWUNG DASH,INVERTED UNDERTIE
FLOWER PUNCTUATION MARK,THREE DOT PUNCTUATION,QUADRUPLE PRIME,FOUR DOT PUNCTUATION
FIVE DOT PUNCTUATION,TWO DOT PUNCTUATION,FOUR DOT MARK,DOTTED CROSS,TRICOLON,VERTICAL FOUR DOTS
MEDIUM MATHEMATICAL SPACE,WORD JOINER,FUNCTION APPLICATION,INVISIBLE TIMES,aSEPARATOR,aPLUS
2066:LEFT-TO-RIGHT ISOLATE,RIGHT-TO-LEFT ISOLATE,FIRST STRONG ISOLATE,POP DIRECTIONAL ISOLATE
INHIBIT SYMMETRIC SWAPPING,ACTIVATE SYMMETRIC SWAPPING,INHIBIT ARABIC FORM SHAPING
ACTIVATE ARABIC FORM SHAPING,NATIONAL DIGIT SHAPES,NOMINAL DIGIT SHAPES,SUPERSCRIPT ZERO
aLATIN SMALL LETTER I,2074:aFOUR,aFIVE,aSIX,aSEVEN,aEIGHT,aNINE,aPLUS SIGN,aMINUS,aEQUALS SIGN
aLEFT PARENTHESIS,aRIGHT PARENTHESIS,aLATIN SMALL LETTER N,SUBSCRIPT ZERO,aONE,aTWO,aTHREE,aFOUR
aFIVE,aSIX,aSEVEN,aEIGHT,aNINE,aPLUS SIGN,aMINUS,aEQUALS SIGN,aLEFT PARENTHESIS,aRIGHT PARENTHESIS
2090:LATIN SUBSCRIPT SMALL LETTER A,dE,dO,dX,dSCHWA,dH,dK,dL,dM,dN,dP,dS,dT
20A0:EURO-CURRENCY SIGN,COLON SIGN,CRUZEIRO SIGN,FRENCH FRANC SIGN,LIRA SIGN,MILL SIGN,NAIRA SIGN
PESETA SIGN,RUPEE SIGN,WON SIGN,NEW SHEQEL SIGN,DONG SIGN,EURO SIGN,KIP SIGN,TUGRIK SIGN
DRACHMA SIGN,GERMAN PENNY SIGN,PESO SIGN,GUARANI SIGN,AUSTRAL SIGN,HRYVNIA SIGN,CEDI SIGN
LIVRE TOURNOIS SIGN,SPESMILO SIGN,TENGE SIGN,INDIAN RUPEE SIGN,TURKISH LIRA SIGN,NORDIC MARK SIGN
MANAT SIGN,RUBLE SIGN,LARI SIGN,BITCOIN SIGN,SOM SIGN,20D0:COMBINING LEFT HARPOON ABOVE
aRIGHT HARPOON ABOVE,aLONG VERTICAL LINE OVERLAY,aSHORT VERTICAL LINE OVERLAY
aANTICLOCKWISE ARROW ABOVE,aCLOCKWISE ARROW ABOVE,aLEFT ARROW ABOVE,aRIGHT ARROW ABOVE
aRING OVERLAY,aCLOCKWISE RING OVERLAY,aANTICLOCKWISE RING OVERLAY,aTHREE DOTS ABOVE
aFOUR DOTS ABOVE,aENCLOSING CIRCLE,bSQUARE,bDIAMOND,bCIRCLE BACKSLASH,aLEFT RIGHT ARROW ABOVE
aENCLOSING SCREEN,bKEYCAP,bUPWARD POINTING TRIANGLE,aREVERSE SOLIDUS OVERLAY
aDOUBLE VERTICAL STROKE OVERLAY,aANNUITY SYMBOL,aTRIPLE UNDERDOT,aWIDE BRIDGE ABOVE
aLEFTWARDS ARROW OVERLAY,aLONG DOUBLE SOLIDUS OVERLAY,aRIGHTWARDS HARPOON WITH BARB DOWNWARDS
aLEFTWARDS HARPOON WITH BARB DOWNWARDS,aLEFT ARROW BELOW,aRIGHT ARROW BELOW,aASTERISK ABOVE
2100:ACCOUNT OF,ADDRESSED TO THE SUBJECT,DOUBLE-STRUCK CAPITAL C,DEGREE CELSIUS,CENTRE LINE SYMBOL
CARE OF,CADA UNA,EULER CONSTANT,SCRUPLE,DEGREE FAHRENHEIT,SCRIPT SMALL G,aCAPITAL H
BLACK-LETTER CAPITAL H,DOUBLE-STRUCK CAPITAL H,PLANCK CONSTANT,bOVER TWO PI,SCRIPT CAPITAL I
BLACK-LETTER CAPITAL I,SCRIPT CAPITAL L,aSMALL L,L B BAR SYMBOL,DOUBLE-STRUCK CAPITAL N
NUMERO SIGN,SOUND RECORDING COPYRIGHT,SCRIPT CAPITAL P,DOUBLE-STRUCK CAPITAL P,bQ,SCRIPT CAPITAL R
BLACK-LETTER CAPITAL R,DOUBLE-STRUCK CAPITAL R,PRESCRIPTION TAKE,RESPONSE,SERVICE MARK
TELEPHONE SIGN,TRADE MARK SIGN,VERSICLE,DOUBLE-STRUCK CAPITAL Z,OUNCE SIGN,OHM SIGN
INVERTED OHM SIGN,BLACK-LETTER CAPITAL Z,TURNED GREEK SMALL LETTER IOTA,KELVIN SIGN,ANGSTROM SIGN
SCRIPT CAPITAL B,BLACK-LETTER CAPITAL C,ESTIMATED SYMBOL,SCRIPT SMALL E,aCAPITAL E,bF
TURNED CAPITAL F,SCRIPT CAPITAL M,aSMALL O,ALEF SYMBOL,BET SYMBOL,GIMEL SYMBOL,DALET SYMBOL
INFORMATION SOURCE,ROTATED CAPITAL Q,FACSIMILE SIGN,DOUBLE-STRUCK SMALL PI,bGAMMA,aCAPITAL GAMMA
bPI,aN-ARY SUMMATION,TURNED SANS-SERIF CAPITAL G,cL,REVERSED SANS-SERIF CAPITAL L
TURNED SANS-SERIF CAPITAL Y,DOUBLE-STRUCK ITALIC CAPITAL D,bSMALL D,cE,cI,cJ,PROPERTY LINE
TURNED AMPERSAND,PER SIGN,AKTIESELSKAB,TURNED SMALL F,SYMBOL FOR SAMARITAN SOURCE
VULGAR FRACTION ONE SEVENTH,cNINTH,cTENTH,cTHIRD,bTWO THIRDS,bONE FIFTH,bTWO FIFTHS,bTHREE FIFTHS
bFOUR FIFTHS,bONE SIXTH,bFIVE SIXTHS,bONE EIGHTH,bTHREE EIGHTHS,bFIVE EIGHTHS,bSEVEN EIGHTHS
FRACTION NUMERATOR ONE,ROMAN NUMERAL ONE,bTWO,bTHREE,bFOUR,bFIVE,bSIX,bSEVEN,bEIGHT,bNINE,bTEN
bELEVEN,bTWELVE,bFIFTY,bONE HUNDRED,bFIVE HUNDRED,bONE THOUSAND,SMALL ROMAN NUMERAL ONE,cTWO
cTHREE,cFOUR,cFIVE,cSIX,cSEVEN,cEIGHT,cNINE,cTEN,cELEVEN,cTWELVE,cFIFTY,cONE HUNDRED,cFIVE HUNDRED
cONE THOUSAND,ROMAN NUMERAL ONE THOUSAND C D,bFIVE THOUSAND,bTEN THOUSAND,bREVERSED ONE HUNDRED
LATIN SMALL LETTER REVERSED C,ROMAN NUMERAL SIX LATE FORM,bFIFTY EARLY FORM,cTHOUSAND
bONE HUNDRED THOUSAND,VULGAR FRACTION ZERO THIRDS,TURNED DIGIT TWO,bTHREE,2190:LEFTWARDS ARROW
UPWARDS ARROW,RIGHTWARDS ARROW,DOWNWARDS ARROW,LEFT RIGHT ARROW,UP DOWN ARROW,NORTH WEST ARROW
aEAST ARROW,SOUTH EAST ARROW,aWEST ARROW,LEFTWARDS ARROW WITH STROKE,RIGHTWARDS ARROW WITH STROKE
LEFTWARDS WAVE ARROW,RIGHTWARDS WAVE ARROW,LEFTWARDS TWO HEADED ARROW,UPWARDS TWO HEADED ARROW
RIGHTWARDS TWO HEADED ARROW,DOWNWARDS TWO HEADED ARROW,LEFTWARDS ARROW WITH TAIL
RIGHTWARDS ARROW WITH TAIL,LEFTWARDS ARROW FROM BAR,UPWARDS ARROW FROM BAR
RIGHTWARDS ARROW FROM BAR,DOWNWARDS ARROW FROM BAR,UP DOWN ARROW WITH BASE
LEFTWARDS ARROW WITH HOOK,RIGHTWARDS ARROW WITH HOOK,LEFTWARDS ARROW WITH LOOP
RIGHTWARDS ARROW WITH LOOP,LEFT RIGHT WAVE ARROW,bARROW WITH STROKE,DOWNWARDS ZIGZAG ARROW
UPWARDS ARROW WITH TIP LEFTWARDS,dRIGHTWARDS,DOWNWARDS ARROW WITH TIP LEFTWARDS,dRIGHTWARDS
RIGHTWARDS ARROW WITH CORNER DOWNWARDS,DOWNWARDS ARROW WITH CORNER LEFTWARDS
ANTICLOCKWISE TOP SEMICIRCLE ARROW,CLOCKWISE TOP SEMICIRCLE ARROW,NORTH WEST ARROW TO LONG BAR
LEFTWARDS ARROW TO BAR OVER RIGHTWARDS ARROW TO BAR,ANTICLOCKWISE OPEN CIRCLE ARROW
CLOCKWISE OPEN CIRCLE ARROW,LEFTWARDS HARPOON WITH BARB UPWARDS,dDOWNWARDS
UPWARDS HARPOON WITH BARB RIGHTWARDS,dLEFTWARDS,RIGHTWARDS HARPOON WITH BARB UPWARDS,dDOWNWARDS
DOWNWARDS HARPOON WITH BARB RIGHTWARDS,dLEFTWARDS,RIGHTWARDS ARROW OVER LEFTWARDS ARROW
UPWARDS ARROW LEFTWARDS OF DOWNWARDS ARROW,LEFTWARDS ARROW OVER RIGHTWARDS ARROW,aPAIRED ARROWS
UPWARDS PAIRED ARROWS,RIGHTWARDS PAIRED ARROWS,DOWNWARDS PAIRED ARROWS
LEFTWARDS HARPOON OVER RIGHTWARDS HARPOON,RIGHTWARDS HARPOON OVER LEFTWARDS HARPOON
LEFTWARDS DOUBLE ARROW WITH STROKE,LEFT RIGHT DOUBLE ARROW WITH STROKE
RIGHTWARDS DOUBLE ARROW WITH STROKE,LEFTWARDS DOUBLE ARROW,UPWARDS DOUBLE ARROW
RIGHTWARDS DOUBLE ARROW,DOWNWARDS DOUBLE ARROW,LEFT RIGHT DOUBLE ARROW,UP DOWN DOUBLE ARROW
NORTH WEST DOUBLE ARROW,aEAST DOUBLE ARROW,SOUTH EAST DOUBLE ARROW,aWEST DOUBLE ARROW
LEFTWARDS TRIPLE ARROW,RIGHTWARDS TRIPLE ARROW,LEFTWARDS SQUIGGLE ARROW,RIGHTWARDS SQUIGGLE ARROW
UPWARDS ARROW WITH DOUBLE STROKE,DOWNWARDS ARROW WITH DOUBLE STROKE,LEFTWARDS DASHED ARROW
UPWARDS DASHED ARROW,RIGHTWARDS DASHED ARROW,DOWNWARDS DASHED ARROW,LEFTWARDS ARROW TO BAR
RIGHTWARDS ARROW TO BAR,LEFTWARDS WHITE ARROW,UPWARDS WHITE ARROW,RIGHTWARDS WHITE ARROW
DOWNWARDS WHITE ARROW,UPWARDS WHITE ARROW FROM BAR,cON PEDESTAL,eWITH HORIZONTAL BAR,fVERTICAL BAR
bDOUBLE ARROW,dON PEDESTAL,RIGHTWARDS WHITE ARROW FROM WALL,NORTH WEST ARROW TO CORNER
SOUTH EAST ARROW TO CORNER,UP DOWN WHITE ARROW,RIGHT ARROW WITH SMALL CIRCLE
DOWNWARDS ARROW LEFTWARDS OF UPWARDS ARROW,THREE RIGHTWARDS ARROWS
LEFTWARDS ARROW WITH VERTICAL STROKE,RIGHTWARDS ARROW WITH VERTICAL STROKE
LEFT RIGHT ARROW WITH VERTICAL STROKE,LEFTWARDS ARROW WITH DOUBLE VERTICAL STROKE
RIGHTWARDS ARROW WITH DOUBLE VERTICAL STROKE,LEFT RIGHT ARROW WITH DOUBLE VERTICAL STROKE
LEFTWARDS OPEN-HEADED ARROW,RIGHTWARDS OPEN-HEADED ARROW,LEFT RIGHT OPEN-HEADED ARROW,FOR ALL
COMPLEMENT,PARTIAL DIFFERENTIAL,THERE EXISTS,aDOES NOT EXIST,EMPTY SET,INCREMENT,NABLA,ELEMENT OF
NOT AN ELEMENT OF,SMALL ELEMENT OF,CONTAINS AS MEMBER,DOES NOT CONTAIN AS MEMBER
SMALL CONTAINS AS MEMBER,END OF PROOF,N-ARY PRODUCT,aCOPRODUCT,aSUMMATION,MINUS SIGN
MINUS-OR-PLUS SIGN,DOT PLUS,DIVISION SLASH,SET MINUS,ASTERISK OPERATOR,RING OPERATOR
BULLET OPERATOR,SQUARE ROOT,CUBE ROOT,FOURTH ROOT,PROPORTIONAL TO,INFINITY,RIGHT ANGLE,ANGLE
MEASURED ANGLE,SPHERICAL ANGLE,DIVIDES,DOES NOT DIVIDE,PARALLEL TO,NOT PARALLEL TO,LOGICAL AND,aOR
INTERSECTION,UNION,INTEGRAL,DOUBLE INTEGRAL,TRIPLE INTEGRAL,CONTOUR INTEGRAL,SURFACE INTEGRAL
VOLUME INTEGRAL,CLOCKWISE INTEGRAL,aCONTOUR INTEGRAL,ANTICLOCKWISE CONTOUR INTEGRAL,THEREFORE
BECAUSE,RATIO,PROPORTION,DOT MINUS,EXCESS,GEOMETRIC PROPORTION,HOMOTHETIC,TILDE OPERATOR
REVERSED TILDE,INVERTED LAZY S,SINE WAVE,WREATH PRODUCT,NOT TILDE,MINUS TILDE
ASYMPTOTICALLY EQUAL TO,NOT ASYMPTOTICALLY EQUAL TO,APPROXIMATELY EQUAL TO
aBUT NOT ACTUALLY EQUAL TO,NEITHER APPROXIMATELY NOR ACTUALLY EQUAL TO,ALMOST EQUAL TO
NOT ALMOST EQUAL TO,ALMOST EQUAL OR EQUAL TO,TRIPLE TILDE,ALL EQUAL TO,EQUIVALENT TO
GEOMETRICALLY EQUIVALENT TO,DIFFERENCE BETWEEN,APPROACHES THE LIMIT,GEOMETRICALLY EQUAL TO
APPROXIMATELY EQUAL TO OR THE IMAGE OF,IMAGE OF OR APPROXIMATELY EQUAL TO,COLON EQUALS
EQUALS COLON,RING IN EQUAL TO,aEQUAL TO,CORRESPONDS TO,ESTIMATES,EQUIANGULAR TO,STAR EQUALS
DELTA EQUAL TO,EQUAL TO BY DEFINITION,MEASURED BY,QUESTIONED EQUAL TO,NOT EQUAL TO,IDENTICAL TO
NOT IDENTICAL TO,STRICTLY EQUIVALENT TO,LESS-THAN OR EQUAL TO,GREATER-THAN OR EQUAL TO
LESS-THAN OVER EQUAL TO,GREATER-THAN OVER EQUAL TO,LESS-THAN BUT NOT EQUAL TO
GREATER-THAN BUT NOT EQUAL TO,MUCH LESS-THAN,aGREATER-THAN,BETWEEN,NOT EQUIVALENT TO,aLESS-THAN
aGREATER-THAN,NEITHER LESS-THAN NOR EQUAL TO,aGREATER-THAN NOR EQUAL TO,LESS-THAN OR EQUIVALENT TO
GREATER-THAN OR EQUIVALENT TO,NEITHER LESS-THAN NOR EQUIVALENT TO,aGREATER-THAN NOR EQUIVALENT TO
LESS-THAN OR GREATER-THAN,GREATER-THAN OR LESS-THAN,NEITHER LESS-THAN NOR GREATER-THAN
aGREATER-THAN NOR LESS-THAN,PRECEDES,SUCCEEDS,PRECEDES OR EQUAL TO,SUCCEEDS OR EQUAL TO
PRECEDES OR EQUIVALENT TO,SUCCEEDS OR EQUIVALENT TO,DOES NOT PRECEDE,bSUCCEED,SUBSET OF
SUPERSET OF,NOT A SUBSET OF,bSUPERSET OF,SUBSET OF OR EQUAL TO,SUPERSET OF OR EQUAL TO
NEITHER A SUBSET OF NOR EQUAL TO,bSUPERSET OF NOR EQUAL TO,SUBSET OF WITH NOT EQUAL TO
SUPERSET OF WITH NOT EQUAL TO,MULTISET,aMULTIPLICATION,aUNION,SQUARE IMAGE OF,aORIGINAL OF
aIMAGE OF OR EQUAL TO,aORIGINAL OF OR EQUAL TO,aCAP,aCUP,CIRCLED PLUS,aMINUS,aTIMES
aDIVISION SLASH,aDOT OPERATOR,aRING OPERATOR,aASTERISK OPERATOR,aEQUALS,aDASH,SQUARED PLUS,aMINUS
aTIMES,aDOT OPERATOR,RIGHT TACK,LEFT TACK,DOWN TACK,UP TACK,ASSERTION,MODELS,TRUE,FORCES
TRIPLE VERTICAL BAR RIGHT TURNSTILE,DOUBLE VERTICAL BAR DOUBLE RIGHT TURNSTILE,DOES NOT PROVE
NOT TRUE,DOES NOT FORCE,NEGATED DOUBLE VERTICAL BAR DOUBLE RIGHT TURNSTILE,PRECEDES UNDER RELATION
SUCCEEDS UNDER RELATION,NORMAL SUBGROUP OF,CONTAINS AS NORMAL SUBGROUP
NORMAL SUBGROUP OF OR EQUAL TO,CONTAINS AS NORMAL SUBGROUP OR EQUAL TO,ORIGINAL OF,IMAGE OF
MULTIMAP,HERMITIAN CONJUGATE MATRIX,INTERCALATE,XOR,NAND,NOR,RIGHT ANGLE WITH ARC,aTRIANGLE
N-ARY LOGICAL AND,bOR,aINTERSECTION,aUNION,DIAMOND OPERATOR,DOT OPERATOR,STAR OPERATOR
DIVISION TIMES,BOWTIE,LEFT NORMAL FACTOR SEMIDIRECT PRODUCT,RIGHT NORMAL FACTOR SEMIDIRECT PRODUCT
LEFT SEMIDIRECT PRODUCT,RIGHT SEMIDIRECT PRODUCT,REVERSED TILDE EQUALS,CURLY LOGICAL OR,bAND
DOUBLE SUBSET,aSUPERSET,aINTERSECTION,aUNION,PITCHFORK,EQUAL AND PARALLEL TO,LESS-THAN WITH DOT
GREATER-THAN WITH DOT,VERY MUCH LESS-THAN,bGREATER-THAN,LESS-THAN EQUAL TO OR GREATER-THAN
GREATER-THAN EQUAL TO OR LESS-THAN,EQUAL TO OR LESS-THAN,cGREATER-THAN,cPRECEDES,cSUCCEEDS
DOES NOT PRECEDE OR EQUAL,bSUCCEED OR EQUAL,NOT SQUARE IMAGE OF OR EQUAL TO
bORIGINAL OF OR EQUAL TO,SQUARE IMAGE OF OR NOT EQUAL TO,aORIGINAL OF OR NOT EQUAL TO
LESS-THAN BUT NOT EQUIVALENT TO,GREATER-THAN BUT NOT EQUIVALENT TO,PRECEDES BUT NOT EQUIVALENT TO
SUCCEEDS BUT NOT EQUIVALENT TO,NOT NORMAL SUBGROUP OF,DOES NOT CONTAIN AS NORMAL SUBGROUP
NOT NORMAL SUBGROUP OF OR EQUAL TO,DOES NOT CONTAIN AS NORMAL SUBGROUP OR EQUAL,VERTICAL ELLIPSIS
MIDLINE HORIZONTAL ELLIPSIS,UP RIGHT DIAGONAL ELLIPSIS,DOWN RIGHT DIAGONAL ELLIPSIS
ELEMENT OF WITH LONG HORIZONTAL STROKE,cVERTICAL BAR AT END OF HORIZONTAL STROKE
SMALL ELEMENT OF WITH VERTICAL BAR AT END OF HORIZONTAL STROKE,ELEMENT OF WITH DOT ABOVE,cOVERBAR
SMALL ELEMENT OF WITH OVERBAR,ELEMENT OF WITH UNDERBAR,cTWO HORIZONTAL STROKES
CONTAINS WITH LONG HORIZONTAL STROKE,bVERTICAL BAR AT END OF HORIZONTAL STROKE
SMALL CONTAINS WITH VERTICAL BAR AT END OF HORIZONTAL STROKE,CONTAINS WITH OVERBAR
SMALL CONTAINS WITH OVERBAR,Z NOTATION BAG MEMBERSHIP,DIAMETER SIGN,ELECTRIC ARROW,HOUSE
UP ARROWHEAD,DOWN ARROWHEAD,PROJECTIVE,PERSPECTIVE,WAVY LINE,LEFT CEILING,RIGHT CEILING,LEFT FLOOR
RIGHT FLOOR,BOTTOM RIGHT CROP,aLEFT CROP,TOP RIGHT CROP,aLEFT CROP,REVERSED NOT SIGN
SQUARE LOZENGE,ARC,SEGMENT,SECTOR,TELEPHONE RECORDER,POSITION INDICATOR,VIEWDATA SQUARE
PLACE OF INTEREST SIGN,TURNED NOT SIGN,WATCH,HOURGLASS,TOP LEFT CORNER,aRIGHT CORNER
BOTTOM LEFT CORNER,aRIGHT CORNER,TOP HALF INTEGRAL,BOTTOM HALF INTEGRAL,FROWN,SMILE
UP ARROWHEAD BETWEEN TWO HORIZONTAL BARS,OPTION KEY,ERASE TO THE RIGHT,X IN A RECTANGLE BOX
KEYBOARD,LEFT-POINTING ANGLE BRACKET,RIGHT-POINTING ANGLE BRACKET,ERASE TO THE LEFT,BENZENE RING
CYLINDRICITY,ALL AROUND-PROFILE,SYMMETRY,TOTAL RUNOUT,DIMENSION ORIGIN,CONICAL TAPER,SLOPE
COUNTERBORE,COUNTERSINK,APL FUNCTIONAL SYMBOL I-BEAM,cSQUISH QUAD,cQUAD EQUAL,dDIVIDE,dDIAMOND
dJOT,dCIRCLE,cCIRCLE STILE,dJOT,cSLASH BAR,cBACKSLASH BAR,cQUAD SLASH,dBACKSLASH,dLESS-THAN
dGREATER-THAN,cLEFTWARDS VANE,cRIGHTWARDS VANE,cQUAD LEFTWARDS ARROW,dRIGHTWARDS ARROW
cCIRCLE BACKSLASH,cDOWN TACK UNDERBAR,cDELTA STILE,cQUAD DOWN CARET,dDELTA,cDOWN TACK JOT
cUPWARDS VANE,cQUAD UPWARDS ARROW,cUP TACK OVERBAR,cDEL STILE,cQUAD UP CARET,dDEL,cUP TACK JOT
cDOWNWARDS VANE,cQUAD DOWNWARDS ARROW,cQUOTE UNDERBAR,cDELTA UNDERBAR,cDIAMOND UNDERBAR
cJOT UNDERBAR,cCIRCLE UNDERBAR,cUP SHOE JOT,cQUOTE QUAD,cCIRCLE STAR,cQUAD COLON
cUP TACK DIAERESIS,cDEL DIAERESIS,cSTAR DIAERESIS,cJOT DIAERESIS,cCIRCLE DIAERESIS
cDOWN SHOE STILE,cLEFT SHOE STILE,cTILDE DIAERESIS,cGREATER-THAN DIAERESIS,cCOMMA BAR,cDEL TILDE
cZILDE,cSTILE TILDE,cSEMICOLON UNDERBAR,cQUAD NOT EQUAL,dQUESTION,cDOWN CARET TILDE
cUP CARET TILDE,cIOTA,cRHO,cOMEGA,cALPHA UNDERBAR,cEPSILON UNDERBAR,cIOTA UNDERBAR,cOMEGA UNDERBAR
cALPHA,NOT CHECK MARK,RIGHT ANGLE WITH DOWNWARDS ZIGZAG ARROW,SHOULDERED OPEN BOX,BELL SYMBOL
VERTICAL LINE WITH MIDDLE DOT,INSERTION SYMBOL,CONTINUOUS UNDERLINE SYMBOL
DISCONTINUOUS UNDERLINE SYMBOL,EMPHASIS SYMBOL,COMPOSITION SYMBOL
WHITE SQUARE WITH CENTRE VERTICAL LINE,ENTER SYMBOL,ALTERNATIVE KEY SYMBOL,HELM SYMBOL
CIRCLED HORIZONTAL BAR WITH NOTCH,aTRIANGLE DOWN,BROKEN CIRCLE WITH NORTHWEST ARROW,UNDO SYMBOL
MONOSTABLE SYMBOL,HYSTERESIS SYMBOL,OPEN-CIRCUIT-OUTPUT H-TYPE SYMBOL,aL-TYPE SYMBOL
PASSIVE-PULL-DOWN-OUTPUT SYMBOL,PASSIVE-PULL-UP-OUTPUT SYMBOL,DIRECT CURRENT SYMBOL FORM TWO
SOFTWARE-FUNCTION SYMBOL,APL FUNCTIONAL SYMBOL QUAD,DECIMAL SEPARATOR KEY SYMBOL,PREVIOUS PAGE
NEXT PAGE,PRINT SCREEN SYMBOL,CLEAR SCREEN SYMBOL,LEFT PARENTHESIS UPPER HOOK,bEXTENSION
bLOWER HOOK,RIGHT PARENTHESIS UPPER HOOK,bEXTENSION,bLOWER HOOK,LEFT SQUARE BRACKET UPPER CORNER
cEXTENSION,cLOWER CORNER,RIGHT SQUARE BRACKET UPPER CORNER,cEXTENSION,cLOWER CORNER
LEFT CURLY BRACKET UPPER HOOK,cMIDDLE PIECE,cLOWER HOOK,CURLY BRACKET EXTENSION
RIGHT CURLY BRACKET UPPER HOOK,cMIDDLE PIECE,cLOWER HOOK,INTEGRAL EXTENSION
HORIZONTAL LINE EXTENSION,UPPER LEFT OR LOWER RIGHT CURLY BRACKET SECTION
aRIGHT OR LOWER LEFT CURLY BRACKET SECTION,SUMMATION TOP,aBOTTOM,TOP SQUARE BRACKET
BOTTOM SQUARE BRACKET,cOVER TOP SQUARE BRACKET,RADICAL SYMBOL BOTTOM,LEFT VERTICAL BOX LINE
RIGHT VERTICAL BOX LINE,HORIZONTAL SCAN LINE-1,bLINE-3,bLINE-7,bLINE-9
DENTISTRY SYMBOL LIGHT VERTICAL AND TOP RIGHT,eBOTTOM RIGHT,dWITH CIRCLE
cDOWN AND HORIZONTAL WITH CIRCLE,cUP AND HORIZONTAL WITH CIRCLE,cVERTICAL WITH TRIANGLE
cDOWN AND HORIZONTAL WITH TRIANGLE,cUP AND HORIZONTAL WITH TRIANGLE,cVERTICAL AND WAVE
cDOWN AND HORIZONTAL WITH WAVE,cUP AND HORIZONTAL WITH WAVE,cDOWN AND HORIZONTAL
cUP AND HORIZONTAL,cVERTICAL AND TOP LEFT,eBOTTOM LEFT,SQUARE FOOT,RETURN SYMBOL,EJECT SYMBOL
VERTICAL LINE EXTENSION,METRICAL BREVE,aLONG OVER SHORT,aSHORT OVER LONG,aLONG OVER TWO SHORTS
aTWO SHORTS OVER LONG,cJOINED,aTRISEME,aTETRASEME,aPENTASEME,EARTH GROUND,FUSE,TOP PARENTHESIS
BOTTOM PARENTHESIS,TOP CURLY BRACKET,BOTTOM CURLY BRACKET,TOP TORTOISE SHELL BRACKET
BOTTOM TORTOISE SHELL BRACKET,WHITE TRAPEZIUM,BENZENE RING WITH CIRCLE,STRAIGHTNESS,FLATNESS
AC CURRENT,ELECTRICAL INTERSECTION,DECIMAL EXPONENT SYMBOL,BLACK RIGHT-POINTING DOUBLE TRIANGLE
aLEFT-POINTING DOUBLE TRIANGLE,aUP-POINTING DOUBLE TRIANGLE,aDOWN-POINTING DOUBLE TRIANGLE
aRIGHT-POINTING DOUBLE TRIANGLE WITH VERTICAL BAR,aLEFT-POINTING DOUBLE TRIANGLE WITH VERTICAL BAR
aRIGHT-POINTING TRIANGLE WITH DOUBLE VERTICAL BAR,ALARM CLOCK,STOPWATCH,TIMER CLOCK
HOURGLASS WITH FLOWING SAND,BLACK MEDIUM LEFT-POINTING TRIANGLE,bRIGHT-POINTING TRIANGLE
bUP-POINTING TRIANGLE,bDOWN-POINTING TRIANGLE,DOUBLE VERTICAL BAR,BLACK SQUARE FOR STOP
aCIRCLE FOR RECORD,POWER SYMBOL,aON-OFF SYMBOL,aON SYMBOL,aSLEEP SYMBOL,OBSERVER EYE SYMBOL
SYMBOL FOR NULL,bSTART OF HEADING,dTEXT,bEND OF TEXT,dTRANSMISSION,bENQUIRY,bACKNOWLEDGE,bBELL
bBACKSPACE,bHORIZONTAL TABULATION,bLINE FEED,bVERTICAL TABULATION,bFORM FEED,bCARRIAGE RETURN
bSHIFT OUT,cIN,bDATA LINK ESCAPE,bDEVICE CONTROL ONE,dTWO,dTHREE,dFOUR,bNEGATIVE ACKNOWLEDGE
bSYNCHRONOUS IDLE,bEND OF TRANSMISSION BLOCK,bCANCEL,bEND OF MEDIUM,bSUBSTITUTE,bESCAPE
bFILE SEPARATOR,bGROUP SEPARATOR,bRECORD SEPARATOR,bUNIT SEPARATOR,bSPACE,bDELETE,BLANK SYMBOL
OPEN BOX,SYMBOL FOR NEWLINE,bDELETE FORM TWO,bSUBSTITUTE FORM TWO,2440:OCR HOOK,aCHAIR,aFORK
aINVERTED FORK,aBELT BUCKLE,aBOW TIE,aBRANCH BANK IDENTIFICATION,aAMOUNT OF CHECK,aDASH
aCUSTOMER ACCOUNT NUMBER,aDOUBLE BACKSLASH,2460:CIRCLED DIGIT ONE,bTWO,bTHREE,bFOUR,bFIVE,bSIX
bSEVEN,bEIGHT,bNINE,aNUMBER TEN,bELEVEN,bTWELVE,bTHIRTEEN,bFOURTEEN,bFIFTEEN,bSIXTEEN,bSEVENTEEN
bEIGHTEEN,bNINETEEN,bTWENTY,PARENTHESIZED DIGIT ONE,bTWO,bTHREE,bFOUR,bFIVE,bSIX,bSEVEN,bEIGHT
bNINE,aNUMBER TEN,bELEVEN,bTWELVE,bTHIRTEEN,bFOURTEEN,bFIFTEEN,bSIXTEEN,bSEVENTEEN,bEIGHTEEN
bNINETEEN,bTWENTY,DIGIT ONE FULL STOP,aTWO FULL STOP,aTHREE FULL STOP,aFOUR FULL STOP
aFIVE FULL STOP,aSIX FULL STOP,aSEVEN FULL STOP,aEIGHT FULL STOP,aNINE FULL STOP
NUMBER TEN FULL STOP,aELEVEN FULL STOP,aTWELVE FULL STOP,aTHIRTEEN FULL STOP,aFOURTEEN FULL STOP
aFIFTEEN FULL STOP,aSIXTEEN FULL STOP,aSEVENTEEN FULL STOP,aEIGHTEEN FULL STOP,aNINETEEN FULL STOP
aTWENTY FULL STOP,PARENTHESIZED LATIN SMALL LETTER A,dB,dC,dD,dE,dF,dG,dH,dI,dJ,dK,dL,dM,dN,dO,dP
dQ,dR,dS,dT,dU,dV,dW,dX,dY,dZ,CIRCLED LATIN CAPITAL LETTER A,dB,dC,dD,dE,dF,dG,dH,dI,dJ,dK,dL,dM
dN,dO,dP,dQ,dR,dS,dT,dU,dV,dW,dX,dY,dZ,bSMALL LETTER A,dB,dC,dD,dE,dF,dG,dH,dI,dJ,dK,dL,dM,dN,dO
dP,dQ,dR,dS,dT,dU,dV,dW,dX,dY,dZ,aDIGIT ZERO,NEGATIVE CIRCLED NUMBER ELEVEN,cTWELVE,cTHIRTEEN
cFOURTEEN,cFIFTEEN,cSIXTEEN,cSEVENTEEN,cEIGHTEEN,cNINETEEN,cTWENTY,DOUBLE CIRCLED DIGIT ONE,cTWO
cTHREE,cFOUR,cFIVE,cSIX,cSEVEN,cEIGHT,cNINE,bNUMBER TEN,NEGATIVE CIRCLED DIGIT ZERO
BOX DRAWINGS LIGHT HORIZONTAL,bHEAVY HORIZONTAL,bLIGHT VERTICAL,bHEAVY VERTICAL
bLIGHT TRIPLE DASH HORIZONTAL,bHEAVY TRIPLE DASH HORIZONTAL,bLIGHT TRIPLE DASH VERTICAL
bHEAVY TRIPLE DASH VERTICAL,bLIGHT QUADRUPLE DASH HORIZONTAL,bHEAVY QUADRUPLE DASH HORIZONTAL
bLIGHT QUADRUPLE DASH VERTICAL,bHEAVY QUADRUPLE DASH VERTICAL,bLIGHT DOWN AND RIGHT
bDOWN LIGHT AND RIGHT HEAVY,cHEAVY AND RIGHT LIGHT,bHEAVY DOWN AND RIGHT,bLIGHT DOWN AND LEFT
bDOWN LIGHT AND LEFT HEAVY,cHEAVY AND LEFT LIGHT,bHEAVY DOWN AND LEFT,bLIGHT UP AND RIGHT
bUP LIGHT AND RIGHT HEAVY,cHEAVY AND RIGHT LIGHT,bHEAVY UP AND RIGHT,bLIGHT UP AND LEFT
bUP LIGHT AND LEFT HEAVY,cHEAVY AND LEFT LIGHT,bHEAVY UP AND LEFT,bLIGHT VERTICAL AND RIGHT
bVERTICAL LIGHT AND RIGHT HEAVY,bUP HEAVY AND RIGHT DOWN LIGHT,bDOWN HEAVY AND RIGHT UP LIGHT
bVERTICAL HEAVY AND RIGHT LIGHT,bDOWN LIGHT AND RIGHT UP HEAVY,bUP LIGHT AND RIGHT DOWN HEAVY
bHEAVY VERTICAL AND RIGHT,bLIGHT VERTICAL AND LEFT,bVERTICAL LIGHT AND LEFT HEAVY
bUP HEAVY AND LEFT DOWN LIGHT,bDOWN HEAVY AND LEFT UP LIGHT,bVERTICAL HEAVY AND LEFT LIGHT
bDOWN LIGHT AND LEFT UP HEAVY,bUP LIGHT AND LEFT DOWN HEAVY,bHEAVY VERTICAL AND LEFT
bLIGHT DOWN AND HORIZONTAL,bLEFT HEAVY AND RIGHT DOWN LIGHT,bRIGHT HEAVY AND LEFT DOWN LIGHT
bDOWN LIGHT AND HORIZONTAL HEAVY,cHEAVY AND HORIZONTAL LIGHT,bRIGHT LIGHT AND LEFT DOWN HEAVY
bLEFT LIGHT AND RIGHT DOWN HEAVY,bHEAVY DOWN AND HORIZONTAL,bLIGHT UP AND HORIZONTAL
bLEFT HEAVY AND RIGHT UP LIGHT,bRIGHT HEAVY AND LEFT UP LIGHT,bUP LIGHT AND HORIZONTAL HEAVY
cHEAVY AND HORIZONTAL LIGHT,bRIGHT LIGHT AND LEFT UP HEAVY,bLEFT LIGHT AND RIGHT UP HEAVY
bHEAVY UP AND HORIZONTAL,bLIGHT VERTICAL AND HORIZONTAL,bLEFT HEAVY AND RIGHT VERTICAL LIGHT
bRIGHT HEAVY AND LEFT VERTICAL LIGHT,bVERTICAL LIGHT AND HORIZONTAL HEAVY
bUP HEAVY AND DOWN HORIZONTAL LIGHT,bDOWN HEAVY AND UP HORIZONTAL LIGHT
bVERTICAL HEAVY AND HORIZONTAL LIGHT,bLEFT UP HEAVY AND RIGHT DOWN LIGHT
bRIGHT UP HEAVY AND LEFT DOWN LIGHT,bLEFT DOWN HEAVY AND RIGHT UP LIGHT
bRIGHT DOWN HEAVY AND LEFT UP LIGHT,bDOWN LIGHT AND UP HORIZONTAL HEAVY
bUP LIGHT AND DOWN HORIZONTAL HEAVY,bRIGHT LIGHT AND LEFT VERTICAL HEAVY
bLEFT LIGHT AND RIGHT VERTICAL HEAVY,bHEAVY VERTICAL AND HORIZONTAL,bLIGHT DOUBLE DASH HORIZONTAL
bHEAVY DOUBLE DASH HORIZONTAL,bLIGHT DOUBLE DASH VERTICAL,bHEAVY DOUBLE DASH VERTICAL
bDOUBLE HORIZONTAL,cVERTICAL,bDOWN SINGLE AND RIGHT DOUBLE,cDOUBLE AND RIGHT SINGLE
bDOUBLE DOWN AND RIGHT,bDOWN SINGLE AND LEFT DOUBLE,cDOUBLE AND LEFT SINGLE,bDOUBLE DOWN AND LEFT
bUP SINGLE AND RIGHT DOUBLE,cDOUBLE AND RIGHT SINGLE,bDOUBLE UP AND RIGHT
bUP SINGLE AND LEFT DOUBLE,cDOUBLE AND LEFT SINGLE,bDOUBLE UP AND LEFT
bVERTICAL SINGLE AND RIGHT DOUBLE,cDOUBLE AND RIGHT SINGLE,bDOUBLE VERTICAL AND RIGHT
bVERTICAL SINGLE AND LEFT DOUBLE,cDOUBLE AND LEFT SINGLE,bDOUBLE VERTICAL AND LEFT
bDOWN SINGLE AND HORIZONTAL DOUBLE,cDOUBLE AND HORIZONTAL SINGLE,bDOUBLE DOWN AND HORIZONTAL
bUP SINGLE AND HORIZONTAL DOUBLE,cDOUBLE AND HORIZONTAL SINGLE,bDOUBLE UP AND HORIZONTAL
bVERTICAL SINGLE AND HORIZONTAL DOUBLE,cDOUBLE AND HORIZONTAL SINGLE
bDOUBLE VERTICAL AND HORIZONTAL,bLIGHT ARC DOWN AND RIGHT,fLEFT,dUP AND LEFT,fRIGHT
cDIAGONAL UPPER RIGHT TO LOWER LEFT,eLEFT TO LOWER RIGHT,dCROSS,cLEFT,cUP,cRIGHT,cDOWN,bHEAVY LEFT
cUP,cRIGHT,cDOWN,bLIGHT LEFT AND HEAVY RIGHT,cUP AND HEAVY DOWN,bHEAVY LEFT AND LIGHT RIGHT
cUP AND LIGHT DOWN,UPPER HALF BLOCK,LOWER ONE EIGHTH BLOCK,bQUARTER BLOCK,aTHREE EIGHTHS BLOCK
aHALF BLOCK,aFIVE EIGHTHS BLOCK,aTHREE QUARTERS BLOCK,aSEVEN EIGHTHS BLOCK,FULL BLOCK
LEFT SEVEN EIGHTHS BLOCK,aTHREE QUARTERS BLOCK,aFIVE EIGHTHS BLOCK,aHALF BLOCK
aTHREE EIGHTHS BLOCK,aONE QUARTER BLOCK,bEIGHTH BLOCK,RIGHT HALF BLOCK,LIGHT SHADE,MEDIUM SHADE
DARK SHADE,UPPER ONE EIGHTH BLOCK,RIGHT ONE EIGHTH BLOCK,QUADRANT LOWER LEFT,bRIGHT,aUPPER LEFT
cAND LOWER LEFT AND LOWER RIGHT,eRIGHT,dUPPER RIGHT AND LOWER LEFT,hRIGHT,bRIGHT,cAND LOWER LEFT
fAND LOWER RIGHT,BLACK SQUARE,WHITE SQUARE,bWITH ROUNDED CORNERS,bCONTAINING BLACK SMALL SQUARE
SQUARE WITH HORIZONTAL FILL,bVERTICAL FILL,bORTHOGONAL CROSSHATCH FILL
bUPPER LEFT TO LOWER RIGHT FILL,cRIGHT TO LOWER LEFT FILL,bDIAGONAL CROSSHATCH FILL
BLACK SMALL SQUARE,WHITE SMALL SQUARE,BLACK RECTANGLE,WHITE RECTANGLE,BLACK VERTICAL RECTANGLE
WHITE VERTICAL RECTANGLE,BLACK PARALLELOGRAM,WHITE PARALLELOGRAM,BLACK UP-POINTING TRIANGLE
WHITE UP-POINTING TRIANGLE,BLACK UP-POINTING SMALL TRIANGLE,WHITE UP-POINTING SMALL TRIANGLE
BLACK RIGHT-POINTING TRIANGLE,WHITE RIGHT-POINTING TRIANGLE,BLACK RIGHT-POINTING SMALL TRIANGLE
WHITE RIGHT-POINTING SMALL TRIANGLE,BLACK RIGHT-POINTING POINTER,WHITE RIGHT-POINTING POINTER
BLACK DOWN-POINTING TRIANGLE,WHITE DOWN-POINTING TRIANGLE,BLACK DOWN-POINTING SMALL TRIANGLE
WHITE DOWN-POINTING SMALL TRIANGLE,BLACK LEFT-POINTING TRIANGLE,WHITE LEFT-POINTING TRIANGLE
BLACK LEFT-POINTING SMALL TRIANGLE,WHITE LEFT-POINTING SMALL TRIANGLE,BLACK LEFT-POINTING POINTER
WHITE LEFT-POINTING POINTER,BLACK DIAMOND,WHITE DIAMOND,bCONTAINING BLACK SMALL DIAMOND,FISHEYE
LOZENGE,WHITE CIRCLE,DOTTED CIRCLE,CIRCLE WITH VERTICAL FILL,BULLSEYE,BLACK CIRCLE
CIRCLE WITH LEFT HALF BLACK,bRIGHT HALF BLACK,bLOWER HALF BLACK,bUPPER HALF BLACK
cRIGHT QUADRANT BLACK,bALL BUT UPPER LEFT QUADRANT BLACK,LEFT HALF BLACK CIRCLE
RIGHT HALF BLACK CIRCLE,INVERSE BULLET,aWHITE CIRCLE,UPPER HALF INVERSE WHITE CIRCLE
LOWER HALF INVERSE WHITE CIRCLE,UPPER LEFT QUADRANT CIRCULAR ARC,aRIGHT QUADRANT CIRCULAR ARC
LOWER RIGHT QUADRANT CIRCULAR ARC,aLEFT QUADRANT CIRCULAR ARC,UPPER HALF CIRCLE,LOWER HALF CIRCLE
BLACK LOWER RIGHT TRIANGLE,bLEFT TRIANGLE,aUPPER LEFT TRIANGLE,bRIGHT TRIANGLE,WHITE BULLET
SQUARE WITH LEFT HALF BLACK,bRIGHT HALF BLACK,bUPPER LEFT DIAGONAL HALF BLACK
bLOWER RIGHT DIAGONAL HALF BLACK,WHITE SQUARE WITH VERTICAL BISECTING LINE
aUP-POINTING TRIANGLE WITH DOT,UP-POINTING TRIANGLE WITH LEFT HALF BLACK,cRIGHT HALF BLACK
LARGE CIRCLE,WHITE SQUARE WITH UPPER LEFT QUADRANT,cLOWER LEFT QUADRANT,dRIGHT QUADRANT
cUPPER RIGHT QUADRANT,aCIRCLE WITH UPPER LEFT QUADRANT,cLOWER LEFT QUADRANT,dRIGHT QUADRANT
cUPPER RIGHT QUADRANT,UPPER LEFT TRIANGLE,aRIGHT TRIANGLE,LOWER LEFT TRIANGLE,WHITE MEDIUM SQUARE
BLACK MEDIUM SQUARE,WHITE MEDIUM SMALL SQUARE,BLACK MEDIUM SMALL SQUARE,LOWER RIGHT TRIANGLE
BLACK SUN WITH RAYS,CLOUD,UMBRELLA,SNOWMAN,COMET,BLACK STAR,WHITE STAR,LIGHTNING,THUNDERSTORM,SUN
ASCENDING NODE,DESCENDING NODE,CONJUNCTION,OPPOSITION,BLACK TELEPHONE,WHITE TELEPHONE,BALLOT BOX
bWITH CHECK,cX,SALTIRE,UMBRELLA WITH RAIN DROPS,HOT BEVERAGE,WHITE SHOGI PIECE,BLACK SHOGI PIECE
SHAMROCK,REVERSED ROTATED FLORAL HEART BULLET,BLACK LEFT POINTING INDEX,aRIGHT POINTING INDEX
WHITE LEFT POINTING INDEX,aUP POINTING INDEX,aRIGHT POINTING INDEX,aDOWN POINTING INDEX
SKULL AND CROSSBONES,CAUTION SIGN,RADIOACTIVE SIGN,BIOHAZARD SIGN,CADUCEUS,ANKH,ORTHODOX CROSS
CHI RHO,CROSS OF LORRAINE,bJERUSALEM,STAR AND CRESCENT,FARSI SYMBOL,ADI SHAKTI,HAMMER AND SICKLE
PEACE SYMBOL,YIN YANG,TRIGRAM FOR HEAVEN,bLAKE,bFIRE,bTHUNDER,bWIND,bWATER,bMOUNTAIN,bEARTH
WHEEL OF DHARMA,WHITE FROWNING FACE,aSMILING FACE,BLACK SMILING FACE,WHITE SUN WITH RAYS
FIRST QUARTER MOON,LAST QUARTER MOON,MERCURY,FEMALE SIGN,EARTH,MALE SIGN,JUPITER,SATURN,URANUS
NEPTUNE,PLUTO,ARIES,TAURUS,GEMINI,CANCER,LEO,VIRGO,LIBRA,SCORPIUS,SAGITTARIUS,CAPRICORN,AQUARIUS
PISCES,WHITE CHESS KING,bQUEEN,bROOK,bBISHOP,bKNIGHT,bPAWN,BLACK CHESS KING,bQUEEN,bROOK,bBISHOP
bKNIGHT,bPAWN,aSPADE SUIT,WHITE HEART SUIT,aDIAMOND SUIT,BLACK CLUB SUIT,WHITE SPADE SUIT
BLACK HEART SUIT,aDIAMOND SUIT,WHITE CLUB SUIT,HOT SPRINGS,QUARTER NOTE,EIGHTH NOTE
BEAMED EIGHTH NOTES,aSIXTEENTH NOTES,MUSIC FLAT SIGN,aNATURAL SIGN,aSHARP SIGN,WEST SYRIAC CROSS
EAST SYRIAC CROSS,UNIVERSAL RECYCLING SYMBOL,RECYCLING SYMBOL FOR TYPE-1 PLASTICS,cTYPE-2 PLASTICS
cTYPE-3 PLASTICS,cTYPE-4 PLASTICS,cTYPE-5 PLASTICS,cTYPE-6 PLASTICS,cTYPE-7 PLASTICS
cGENERIC MATERIALS,BLACK UNIVERSAL RECYCLING SYMBOL,RECYCLED PAPER SYMBOL
PARTIALLY-RECYCLED PAPER SYMBOL,PERMANENT PAPER SIGN,WHEELCHAIR SYMBOL,DIE FACE-1,aFACE-2,aFACE-3
aFACE-4,aFACE-5,aFACE-6,WHITE CIRCLE WITH DOT RIGHT,cTWO DOTS,BLACK CIRCLE WITH WHITE DOT RIGHT
cTWO WHITE DOTS,MONOGRAM FOR YANG,bYIN,DIGRAM FOR GREATER YANG,bLESSER YIN,cYANG,bGREATER YIN
WHITE FLAG,BLACK FLAG,HAMMER AND PICK,ANCHOR,CROSSED SWORDS,STAFF OF AESCULAPIUS,SCALES,ALEMBIC
FLOWER,GEAR,STAFF OF HERMES,ATOM SYMBOL,FLEUR-DE-LIS,OUTLINED WHITE STAR
THREE LINES CONVERGING RIGHT,cLEFT,WARNING SIGN,HIGH VOLTAGE SIGN,DOUBLED FEMALE SIGN,aMALE SIGN
INTERLOCKED FEMALE AND MALE SIGN,MALE AND FEMALE SIGN,aWITH STROKE SIGN,cAND MALE AND FEMALE SIGN
VERTICAL MALE WITH STROKE SIGN,HORIZONTAL MALE WITH STROKE SIGN,MEDIUM WHITE CIRCLE,aBLACK CIRCLE
aSMALL WHITE CIRCLE,MARRIAGE SYMBOL,DIVORCE SYMBOL,UNMARRIED PARTNERSHIP SYMBOL,COFFIN,FUNERAL URN
NEUTER,CERES,PALLAS,JUNO,VESTA,CHIRON,BLACK MOON LILITH,SEXTILE,SEMISEXTILE,QUINCUNX
SESQUIQUADRATE,SOCCER BALL,BASEBALL,SQUARED KEY,WHITE DRAUGHTS MAN,bKING,BLACK DRAUGHTS MAN,bKING
SNOWMAN WITHOUT SNOW,SUN BEHIND CLOUD,RAIN,BLACK SNOWMAN,THUNDER CLOUD AND RAIN
TURNED WHITE SHOGI PIECE,aBLACK SHOGI PIECE,WHITE DIAMOND IN SQUARE,CROSSING LANES,DISABLED CAR
OPHIUCHUS,PICK,CAR SLIDING,HELMET WITH WHITE CROSS,CIRCLED CROSSING LANES,CHAINS,NO ENTRY
ALTERNATE ONE-WAY LEFT WAY TRAFFIC,BLACK TWO-WAY LEFT WAY TRAFFIC,WHITE TWO-WAY LEFT WAY TRAFFIC
BLACK LEFT LANE MERGE,WHITE LEFT LANE MERGE,DRIVE SLOW SIGN,HEAVY WHITE DOWN-POINTING TRIANGLE
LEFT CLOSED ENTRY,SQUARED SALTIRE,FALLING DIAGONAL IN WHITE CIRCLE IN BLACK SQUARE,BLACK TRUCK
RESTRICTED LEFT ENTRY-1,bENTRY-2,ASTRONOMICAL SYMBOL FOR URANUS
HEAVY CIRCLE WITH STROKE AND TWO DOTS ABOVE,PENTAGRAM,RIGHT-HANDED INTERLACED PENTAGRAM
LEFT-HANDED INTERLACED PENTAGRAM,INVERTED PENTAGRAM,BLACK CROSS ON SHIELD,SHINTO SHRINE,CHURCH
CASTLE,HISTORIC SITE,GEAR WITHOUT HUB,aWITH HANDLES,MAP SYMBOL FOR LIGHTHOUSE,MOUNTAIN
UMBRELLA ON GROUND,FOUNTAIN,FLAG IN HOLE,FERRY,SAILBOAT,SQUARE FOUR CORNERS,SKIER,ICE SKATE
PERSON WITH BALL,TENT,JAPANESE BANK SYMBOL,HEADSTONE GRAVEYARD SYMBOL,FUEL PUMP
CUP ON BLACK SQUARE,WHITE FLAG WITH HORIZONTAL MIDDLE BLACK STRIPE,BLACK SAFETY SCISSORS
UPPER BLADE SCISSORS,BLACK SCISSORS,LOWER BLADE SCISSORS,WHITE SCISSORS,aHEAVY CHECK MARK
TELEPHONE LOCATION SIGN,TAPE DRIVE,AIRPLANE,ENVELOPE,RAISED FIST,aHAND,VICTORY HAND,WRITING HAND
LOWER RIGHT PENCIL,PENCIL,UPPER RIGHT PENCIL,WHITE NIB,BLACK NIB,CHECK MARK,HEAVY CHECK MARK
MULTIPLICATION X,HEAVY MULTIPLICATION X,BALLOT X,HEAVY BALLOT X,OUTLINED GREEK CROSS
HEAVY GREEK CROSS,OPEN CENTRE CROSS,HEAVY OPEN CENTRE CROSS,LATIN CROSS,SHADOWED WHITE LATIN CROSS
OUTLINED LATIN CROSS,MALTESE CROSS,STAR OF DAVID,FOUR TEARDROP-SPOKED ASTERISK
aBALLOON-SPOKED ASTERISK,HEAVY FOUR BALLOON-SPOKED ASTERISK,FOUR CLUB-SPOKED ASTERISK
BLACK FOUR POINTED STAR,WHITE FOUR POINTED STAR,SPARKLES,STRESS OUTLINED WHITE STAR
CIRCLED WHITE STAR,OPEN CENTRE BLACK STAR,BLACK CENTRE WHITE STAR,OUTLINED BLACK STAR
HEAVY OUTLINED BLACK STAR,PINWHEEL STAR,SHADOWED WHITE STAR,HEAVY ASTERISK,OPEN CENTRE ASTERISK
EIGHT SPOKED ASTERISK,aPOINTED BLACK STAR,bPINWHEEL STAR,SIX POINTED BLACK STAR
EIGHT POINTED RECTILINEAR BLACK STAR,HEAVY EIGHT POINTED RECTILINEAR BLACK STAR
TWELVE POINTED BLACK STAR,SIXTEEN POINTED ASTERISK,TEARDROP-SPOKED ASTERISK
OPEN CENTRE TEARDROP-SPOKED ASTERISK,HEAVY TEARDROP-SPOKED ASTERISK
SIX PETALLED BLACK AND WHITE FLORETTE,BLACK FLORETTE,WHITE FLORETTE
EIGHT PETALLED OUTLINED BLACK FLORETTE,CIRCLED OPEN CENTRE EIGHT POINTED STAR
HEAVY TEARDROP-SPOKED PINWHEEL ASTERISK,SNOWFLAKE,TIGHT TRIFOLIATE SNOWFLAKE
HEAVY CHEVRON SNOWFLAKE,SPARKLE,HEAVY SPARKLE,BALLOON-SPOKED ASTERISK
EIGHT TEARDROP-SPOKED PROPELLER ASTERISK,HEAVY EIGHT TEARDROP-SPOKED PROPELLER ASTERISK,CROSS MARK
SHADOWED WHITE CIRCLE,NEGATIVE SQUARED CROSS MARK,LOWER RIGHT DROP-SHADOWED WHITE SQUARE
UPPER RIGHT DROP-SHADOWED WHITE SQUARE,LOWER RIGHT SHADOWED WHITE SQUARE
UPPER RIGHT SHADOWED WHITE SQUARE,BLACK QUESTION MARK ORNAMENT,WHITE QUESTION MARK ORNAMENT
aEXCLAMATION MARK ORNAMENT,BLACK DIAMOND MINUS WHITE X,HEAVY EXCLAMATION MARK SYMBOL
LIGHT VERTICAL BAR,MEDIUM VERTICAL BAR,HEAVY VERTICAL BAR
aSINGLE TURNED COMMA QUOTATION MARK ORNAMENT,bCOMMA QUOTATION MARK ORNAMENT
aDOUBLE TURNED COMMA QUOTATION MARK ORNAMENT,bCOMMA QUOTATION MARK ORNAMENT
aLOW SINGLE COMMA QUOTATION MARK ORNAMENT,bDOUBLE COMMA QUOTATION MARK ORNAMENT
CURVED STEM PARAGRAPH SIGN ORNAMENT,HEAVY EXCLAMATION MARK ORNAMENT
aHEART EXCLAMATION MARK ORNAMENT,aBLACK HEART,ROTATED HEAVY BLACK HEART BULLET,FLORAL HEART
ROTATED FLORAL HEART BULLET,MEDIUM LEFT PARENTHESIS ORNAMENT,aRIGHT PARENTHESIS ORNAMENT
aFLATTENED LEFT PARENTHESIS ORNAMENT,bRIGHT PARENTHESIS ORNAMENT
aLEFT-POINTING ANGLE BRACKET ORNAMENT,aRIGHT-POINTING ANGLE BRACKET ORNAMENT
HEAVY LEFT-POINTING ANGLE QUOTATION MARK ORNAMENT,aRIGHT-POINTING ANGLE QUOTATION MARK ORNAMENT
aLEFT-POINTING ANGLE BRACKET ORNAMENT,aRIGHT-POINTING ANGLE BRACKET ORNAMENT
LIGHT LEFT TORTOISE SHELL BRACKET ORNAMENT,aRIGHT TORTOISE SHELL BRACKET ORNAMENT
MEDIUM LEFT CURLY BRACKET ORNAMENT,aRIGHT CURLY BRACKET ORNAMENT
DINGBAT NEGATIVE CIRCLED DIGIT ONE,dTWO,dTHREE,dFOUR,dFIVE,dSIX,dSEVEN,dEIGHT,dNINE,cNUMBER TEN
aCIRCLED SANS-SERIF DIGIT ONE,dTWO,dTHREE,dFOUR,dFIVE,dSIX,dSEVEN,dEIGHT,dNINE,cNUMBER TEN
aNEGATIVE CIRCLED SANS-SERIF DIGIT ONE,eTWO,eTHREE,eFOUR,eFIVE,eSIX,eSEVEN,eEIGHT,eNINE
dNUMBER TEN,HEAVY WIDE-HEADED RIGHTWARDS ARROW,aPLUS SIGN,aMINUS SIGN,aDIVISION SIGN
aSOUTH EAST ARROW,aRIGHTWARDS ARROW,aNORTH EAST ARROW,DRAFTING POINT RIGHTWARDS ARROW
HEAVY ROUND-TIPPED RIGHTWARDS ARROW,TRIANGLE-HEADED RIGHTWARDS ARROW
HEAVY TRIANGLE-HEADED RIGHTWARDS ARROW,DASHED TRIANGLE-HEADED RIGHTWARDS ARROW
HEAVY DASHED TRIANGLE-HEADED RIGHTWARDS ARROW,BLACK RIGHTWARDS ARROW
THREE-D TOP-LIGHTED RIGHTWARDS ARROWHEAD,aBOTTOM-LIGHTED RIGHTWARDS ARROWHEAD
BLACK RIGHTWARDS ARROWHEAD,HEAVY BLACK CURVED DOWNWARDS AND RIGHTWARDS ARROW
cUPWARDS AND RIGHTWARDS ARROW,SQUAT BLACK RIGHTWARDS ARROW
HEAVY CONCAVE-POINTED BLACK RIGHTWARDS ARROW,RIGHT-SHADED WHITE RIGHTWARDS ARROW
LEFT-SHADED WHITE RIGHTWARDS ARROW,BACK-TILTED SHADOWED WHITE RIGHTWARDS ARROW
FRONT-TILTED SHADOWED WHITE RIGHTWARDS ARROW,HEAVY LOWER RIGHT-SHADOWED WHITE RIGHTWARDS ARROW
aUPPER RIGHT-SHADOWED WHITE RIGHTWARDS ARROW,NOTCHED LOWER RIGHT-SHADOWED WHITE RIGHTWARDS ARROW
CURLY LOOP,NOTCHED UPPER RIGHT-SHADOWED WHITE RIGHTWARDS ARROW
CIRCLED HEAVY WHITE RIGHTWARDS ARROW,WHITE-FEATHERED RIGHTWARDS ARROW
BLACK-FEATHERED SOUTH EAST ARROW,aRIGHTWARDS ARROW,aNORTH EAST ARROW
HEAVY BLACK-FEATHERED SOUTH EAST ARROW,bRIGHTWARDS ARROW,bNORTH EAST ARROW
TEARDROP-BARBED RIGHTWARDS ARROW,HEAVY TEARDROP-SHANKED RIGHTWARDS ARROW
WEDGE-TAILED RIGHTWARDS ARROW,HEAVY WEDGE-TAILED RIGHTWARDS ARROW,OPEN-OUTLINED RIGHTWARDS ARROW
DOUBLE CURLY LOOP,THREE DIMENSIONAL ANGLE,WHITE TRIANGLE CONTAINING SMALL WHITE TRIANGLE
PERPENDICULAR,OPEN SUBSET,aSUPERSET,LEFT S-SHAPED BAG DELIMITER,RIGHT S-SHAPED BAG DELIMITER
OR WITH DOT INSIDE,REVERSE SOLIDUS PRECEDING SUBSET,SUPERSET PRECEDING SOLIDUS
VERTICAL BAR WITH HORIZONTAL STROKE,MATHEMATICAL RISING DIAGONAL,LONG DIVISION
MATHEMATICAL FALLING DIAGONAL,SQUARED LOGICAL AND,bOR,WHITE DIAMOND WITH CENTRED DOT,AND WITH DOT
ELEMENT OF OPENING UPWARDS,LOWER RIGHT CORNER WITH DOT,UPPER LEFT CORNER WITH DOT,LEFT OUTER JOIN
RIGHT OUTER JOIN,FULL OUTER JOIN,LARGE UP TACK,aDOWN TACK,LEFT AND RIGHT DOUBLE TURNSTILE,cTACK
aMULTIMAP,LONG RIGHT TACK,aLEFT TACK,UP TACK WITH CIRCLE ABOVE,LOZENGE DIVIDED BY HORIZONTAL RULE
WHITE CONCAVE-SIDED DIAMOND,cWITH LEFTWARDS TICK,dRIGHTWARDS TICK,aSQUARE WITH LEFTWARDS TICK
cRIGHTWARDS TICK,MATHEMATICAL LEFT WHITE SQUARE BRACKET,aRIGHT WHITE SQUARE BRACKET
aLEFT ANGLE BRACKET,aRIGHT ANGLE BRACKET,aLEFT DOUBLE ANGLE BRACKET,aRIGHT DOUBLE ANGLE BRACKET
aLEFT WHITE TORTOISE SHELL BRACKET,aRIGHT WHITE TORTOISE SHELL BRACKET,aLEFT FLATTENED PARENTHESIS
aRIGHT FLATTENED PARENTHESIS,UPWARDS QUADRUPLE ARROW,DOWNWARDS QUADRUPLE ARROW
ANTICLOCKWISE GAPPED CIRCLE ARROW,CLOCKWISE GAPPED CIRCLE ARROW,RIGHT ARROW WITH CIRCLED PLUS
LONG LEFTWARDS ARROW,aRIGHTWARDS ARROW,aLEFT RIGHT ARROW,aLEFTWARDS DOUBLE ARROW
aRIGHTWARDS DOUBLE ARROW,aLEFT RIGHT DOUBLE ARROW,aLEFTWARDS ARROW FROM BAR
aRIGHTWARDS ARROW FROM BAR,aLEFTWARDS DOUBLE ARROW FROM BAR,aRIGHTWARDS DOUBLE ARROW FROM BAR
bSQUIGGLE ARROW,BRAILLE PATTERN BLANK,bDOTS-1,bDOTS-2,bDOTS-12,bDOTS-3,bDOTS-13,bDOTS-23,bDOTS-123
bDOTS-4,bDOTS-14,bDOTS-24,bDOTS-124,bDOTS-34,bDOTS-134,bDOTS-234,bDOTS-1234,bDOTS-5,bDOTS-15
bDOTS-25,bDOTS-125,bDOTS-35,bDOTS-135,bDOTS-235,bDOTS-1235,bDOTS-45,bDOTS-145,bDOTS-245,bDOTS-1245
bDOTS-345,bDOTS-1345,bDOTS-2345,bDOTS-12345,bDOTS-6,bDOTS-16,bDOTS-26,bDOTS-126,bDOTS-36,bDOTS-136
bDOTS-236,bDOTS-1236,bDOTS-46,bDOTS-146,bDOTS-246,bDOTS-1246,bDOTS-346,bDOTS-1346,bDOTS-2346
bDOTS-12346,bDOTS-56,bDOTS-156,bDOTS-256,bDOTS-1256,bDOTS-356,bDOTS-1356,bDOTS-2356,bDOTS-12356
bDOTS-456,bDOTS-1456,bDOTS-2456,bDOTS-12456,bDOTS-3456,bDOTS-13456,bDOTS-23456,bDOTS-123456
bDOTS-7,bDOTS-17,bDOTS-27,bDOTS-127,bDOTS-37,bDOTS-137,bDOTS-237,bDOTS-1237,bDOTS-47,bDOTS-147
bDOTS-247,bDOTS-1247,bDOTS-347,bDOTS-1347,bDOTS-2347,bDOTS-12347,bDOTS-57,bDOTS-157,bDOTS-257
bDOTS-1257,bDOTS-357,bDOTS-1357,bDOTS-2357,bDOTS-12357,bDOTS-457,bDOTS-1457,bDOTS-2457,bDOTS-12457
bDOTS-3457,bDOTS-13457,bDOTS-23457,bDOTS-123457,bDOTS-67,bDOTS-167,bDOTS-267,bDOTS-1267,bDOTS-367
bDOTS-1367,bDOTS-2367,bDOTS-12367,bDOTS-467,bDOTS-1467,bDOTS-2467,bDOTS-12467,bDOTS-3467
bDOTS-13467,bDOTS-23467,bDOTS-123467,bDOTS-567,bDOTS-1567,bDOTS-2567,bDOTS-12567,bDOTS-3567
bDOTS-13567,bDOTS-23567,bDOTS-123567,bDOTS-4567,bDOTS-14567,bDOTS-24567,bDOTS-124567,bDOTS-34567
bDOTS-134567,bDOTS-234567,bDOTS-1234567,bDOTS-8,bDOTS-18,bDOTS-28,bDOTS-128,bDOTS-38,bDOTS-138
bDOTS-238,bDOTS-1238,bDOTS-48,bDOTS-148,bDOTS-248,bDOTS-1248,bDOTS-348,bDOTS-1348,bDOTS-2348
bDOTS-12348,bDOTS-58,bDOTS-158,bDOTS-258,bDOTS-1258,bDOTS-358,bDOTS-1358,bDOTS-2358,bDOTS-12358
bDOTS-458,bDOTS-1458,bDOTS-2458,bDOTS-12458,bDOTS-3458,bDOTS-13458,bDOTS-23458,bDOTS-123458
bDOTS-68,bDOTS-168,bDOTS-268,bDOTS-1268,bDOTS-368,bDOTS-1368,bDOTS-2368,bDOTS-12368,bDOTS-468
bDOTS-1468,bDOTS-2468,bDOTS-12468,bDOTS-3468,bDOTS-13468,bDOTS-23468,bDOTS-123468,bDOTS-568
bDOTS-1568,bDOTS-2568,bDOTS-12568,bDOTS-3568,bDOTS-13568,bDOTS-23568,bDOTS-123568,bDOTS-4568
bDOTS-14568,bDOTS-24568,bDOTS-124568,bDOTS-34568,bDOTS-134568,bDOTS-234568,bDOTS-1234568,bDOTS-78
bDOTS-178,bDOTS-278,bDOTS-1278,bDOTS-378,bDOTS-1378,bDOTS-2378,bDOTS-12378,bDOTS-478,bDOTS-1478
bDOTS-2478,bDOTS-12478,bDOTS-3478,bDOTS-13478,bDOTS-23478,bDOTS-123478,bDOTS-578,bDOTS-1578
bDOTS-2578,bDOTS-12578,bDOTS-3578,bDOTS-13578,bDOTS-23578,bDOTS-123578,bDOTS-4578,bDOTS-14578
bDOTS-24578,bDOTS-124578,bDOTS-34578,bDOTS-134578,bDOTS-234578,bDOTS-1234578,bDOTS-678,bDOTS-1678
bDOTS-2678,bDOTS-12678,bDOTS-3678,bDOTS-13678,bDOTS-23678,bDOTS-123678,bDOTS-4678,bDOTS-14678
bDOTS-24678,bDOTS-124678,bDOTS-34678,bDOTS-134678,bDOTS-234678,bDOTS-1234678,bDOTS-5678
bDOTS-15678,bDOTS-25678,bDOTS-125678,bDOTS-35678,bDOTS-135678,bDOTS-235678,bDOTS-1235678
bDOTS-45678,bDOTS-145678,bDOTS-245678,bDOTS-1245678,bDOTS-345678,bDOTS-1345678,bDOTS-2345678
bDOTS-12345678,RIGHTWARDS TWO-HEADED ARROW WITH VERTICAL STROKE,dDOUBLE VERTICAL STROKE
LEFTWARDS DOUBLE ARROW WITH VERTICAL STROKE,RIGHTWARDS DOUBLE ARROW WITH VERTICAL STROKE
LEFT RIGHT DOUBLE ARROW WITH VERTICAL STROKE,RIGHTWARDS TWO-HEADED ARROW FROM BAR
LEFTWARDS DOUBLE ARROW FROM BAR,RIGHTWARDS DOUBLE ARROW FROM BAR
DOWNWARDS ARROW WITH HORIZONTAL STROKE,UPWARDS ARROW WITH HORIZONTAL STROKE,aTRIPLE ARROW
DOWNWARDS TRIPLE ARROW,LEFTWARDS DOUBLE DASH ARROW,RIGHTWARDS DOUBLE DASH ARROW
LEFTWARDS TRIPLE DASH ARROW,RIGHTWARDS TRIPLE DASH ARROW,aTWO-HEADED TRIPLE DASH ARROW
aARROW WITH DOTTED STEM,UPWARDS ARROW TO BAR,DOWNWARDS ARROW TO BAR
RIGHTWARDS ARROW WITH TAIL WITH VERTICAL STROKE,eDOUBLE VERTICAL STROKE
aTWO-HEADED ARROW WITH TAIL,eWITH VERTICAL STROKE,fDOUBLE VERTICAL STROKE,LEFTWARDS ARROW-TAIL
RIGHTWARDS ARROW-TAIL,LEFTWARDS DOUBLE ARROW-TAIL,RIGHTWARDS DOUBLE ARROW-TAIL
LEFTWARDS ARROW TO BLACK DIAMOND,RIGHTWARDS ARROW TO BLACK DIAMOND
LEFTWARDS ARROW FROM BAR TO BLACK DIAMOND,RIGHTWARDS ARROW FROM BAR TO BLACK DIAMOND
NORTH WEST AND SOUTH EAST ARROW,aEAST AND SOUTH WEST ARROW,aWEST ARROW WITH HOOK
aEAST ARROW WITH HOOK,SOUTH EAST ARROW WITH HOOK,aWEST ARROW WITH HOOK
NORTH WEST ARROW AND NORTH EAST ARROW,aEAST ARROW AND SOUTH EAST ARROW
SOUTH EAST ARROW AND SOUTH WEST ARROW,aWEST ARROW AND NORTH WEST ARROW
RISING DIAGONAL CROSSING FALLING DIAGONAL,FALLING DIAGONAL CROSSING RISING DIAGONAL
SOUTH EAST ARROW CROSSING NORTH EAST ARROW,NORTH EAST ARROW CROSSING SOUTH EAST ARROW
FALLING DIAGONAL CROSSING NORTH EAST ARROW,RISING DIAGONAL CROSSING SOUTH EAST ARROW
NORTH EAST ARROW CROSSING NORTH WEST ARROW,aWEST ARROW CROSSING NORTH EAST ARROW
WAVE ARROW POINTING DIRECTLY RIGHT,ARROW POINTING RIGHTWARDS THEN CURVING UPWARDS,eDOWNWARDS
bDOWNWARDS THEN CURVING LEFTWARDS,eRIGHTWARDS,RIGHT-SIDE ARC CLOCKWISE ARROW
LEFT-SIDE ARC ANTICLOCKWISE ARROW,TOP ARC ANTICLOCKWISE ARROW,BOTTOM ARC ANTICLOCKWISE ARROW
TOP ARC CLOCKWISE ARROW WITH MINUS,bANTICLOCKWISE ARROW WITH PLUS
LOWER RIGHT SEMICIRCULAR CLOCKWISE ARROW,aLEFT SEMICIRCULAR ANTICLOCKWISE ARROW
ANTICLOCKWISE CLOSED CIRCLE ARROW,CLOCKWISE CLOSED CIRCLE ARROW
RIGHTWARDS ARROW ABOVE SHORT LEFTWARDS ARROW,LEFTWARDS ARROW ABOVE SHORT RIGHTWARDS ARROW
SHORT RIGHTWARDS ARROW ABOVE LEFTWARDS ARROW,RIGHTWARDS ARROW WITH PLUS BELOW
LEFTWARDS ARROW WITH PLUS BELOW,RIGHTWARDS ARROW THROUGH X,LEFT RIGHT ARROW THROUGH SMALL CIRCLE
UPWARDS TWO-HEADED ARROW FROM SMALL CIRCLE,LEFT BARB UP RIGHT BARB DOWN HARPOON
bDOWN RIGHT BARB UP HARPOON,UP BARB RIGHT DOWN BARB LEFT HARPOON,bLEFT DOWN BARB RIGHT HARPOON
LEFT BARB UP RIGHT BARB UP HARPOON,UP BARB RIGHT DOWN BARB RIGHT HARPOON
LEFT BARB DOWN RIGHT BARB DOWN HARPOON,UP BARB LEFT DOWN BARB LEFT HARPOON
LEFTWARDS HARPOON WITH BARB UP TO BAR,RIGHTWARDS HARPOON WITH BARB UP TO BAR
UPWARDS HARPOON WITH BARB RIGHT TO BAR,DOWNWARDS HARPOON WITH BARB RIGHT TO BAR
LEFTWARDS HARPOON WITH BARB DOWN TO BAR,RIGHTWARDS HARPOON WITH BARB DOWN TO BAR
UPWARDS HARPOON WITH BARB LEFT TO BAR,DOWNWARDS HARPOON WITH BARB LEFT TO BAR
LEFTWARDS HARPOON WITH BARB UP FROM BAR,RIGHTWARDS HARPOON WITH BARB UP FROM BAR
UPWARDS HARPOON WITH BARB RIGHT FROM BAR,DOWNWARDS HARPOON WITH BARB RIGHT FROM BAR
LEFTWARDS HARPOON WITH BARB DOWN FROM BAR,RIGHTWARDS HARPOON WITH BARB DOWN FROM BAR
UPWARDS HARPOON WITH BARB LEFT FROM BAR,DOWNWARDS HARPOON WITH BARB LEFT FROM BAR
LEFTWARDS HARPOON WITH BARB UP ABOVE LEFTWARDS HARPOON WITH BARB DOWN
UPWARDS HARPOON WITH BARB LEFT BESIDE UPWARDS HARPOON WITH BARB RIGHT
RIGHTWARDS HARPOON WITH BARB UP ABOVE RIGHTWARDS HARPOON WITH BARB DOWN
DOWNWARDS HARPOON WITH BARB LEFT BESIDE DOWNWARDS HARPOON WITH BARB RIGHT
LEFTWARDS HARPOON WITH BARB UP ABOVE RIGHTWARDS HARPOON WITH BARB UP
dDOWN ABOVE RIGHTWARDS HARPOON WITH BARB DOWN
RIGHTWARDS HARPOON WITH BARB UP ABOVE LEFTWARDS HARPOON WITH BARB UP
dDOWN ABOVE LEFTWARDS HARPOON WITH BARB DOWN,LEFTWARDS HARPOON WITH BARB UP ABOVE LONG DASH
dDOWN BELOW LONG DASH,RIGHTWARDS HARPOON WITH BARB UP ABOVE LONG DASH,dDOWN BELOW LONG DASH
UPWARDS HARPOON WITH BARB LEFT BESIDE DOWNWARDS HARPOON WITH BARB RIGHT
DOWNWARDS HARPOON WITH BARB LEFT BESIDE UPWARDS HARPOON WITH BARB RIGHT
RIGHT DOUBLE ARROW WITH ROUNDED HEAD,EQUALS SIGN ABOVE RIGHTWARDS ARROW
TILDE OPERATOR ABOVE RIGHTWARDS ARROW,LEFTWARDS ARROW ABOVE TILDE OPERATOR
RIGHTWARDS ARROW ABOVE TILDE OPERATOR,cALMOST EQUAL TO,LESS-THAN ABOVE LEFTWARDS ARROW
LEFTWARDS ARROW THROUGH LESS-THAN,GREATER-THAN ABOVE RIGHTWARDS ARROW
SUBSET ABOVE RIGHTWARDS ARROW,LEFTWARDS ARROW THROUGH SUBSET,SUPERSET ABOVE LEFTWARDS ARROW
LEFT FISH TAIL,RIGHT FISH TAIL,UP FISH TAIL,DOWN FISH TAIL,TRIPLE VERTICAL BAR DELIMITER
Z NOTATION SPOT,bTYPE COLON,LEFT WHITE CURLY BRACKET,RIGHT WHITE CURLY BRACKET
LEFT WHITE PARENTHESIS,RIGHT WHITE PARENTHESIS,Z NOTATION LEFT IMAGE BRACKET,bRIGHT IMAGE BRACKET
bLEFT BINDING BRACKET,bRIGHT BINDING BRACKET,LEFT SQUARE BRACKET WITH UNDERBAR
RIGHT SQUARE BRACKET WITH UNDERBAR,LEFT SQUARE BRACKET WITH TICK IN TOP CORNER
RIGHT SQUARE BRACKET WITH TICK IN BOTTOM CORNER,LEFT SQUARE BRACKET WITH TICK IN BOTTOM CORNER
RIGHT SQUARE BRACKET WITH TICK IN TOP CORNER,LEFT ANGLE BRACKET WITH DOT
RIGHT ANGLE BRACKET WITH DOT,LEFT ARC LESS-THAN BRACKET,RIGHT ARC GREATER-THAN BRACKET
DOUBLE LEFT ARC GREATER-THAN BRACKET,aRIGHT ARC LESS-THAN BRACKET
LEFT BLACK TORTOISE SHELL BRACKET,RIGHT BLACK TORTOISE SHELL BRACKET,DOTTED FENCE
VERTICAL ZIGZAG LINE,MEASURED ANGLE OPENING LEFT,RIGHT ANGLE VARIANT WITH SQUARE
MEASURED RIGHT ANGLE WITH DOT,ANGLE WITH S INSIDE,ACUTE ANGLE,SPHERICAL ANGLE OPENING LEFT,cUP
TURNED ANGLE,REVERSED ANGLE,ANGLE WITH UNDERBAR,REVERSED ANGLE WITH UNDERBAR
OBLIQUE ANGLE OPENING UP,cDOWN,MEASURED ANGLE WITH OPEN ARM ENDING IN ARROW POINTING UP AND RIGHT
kLEFT,iDOWN AND RIGHT,kLEFT,iRIGHT AND UP,iLEFT AND UP,iRIGHT AND DOWN,iLEFT AND DOWN
REVERSED EMPTY SET,EMPTY SET WITH OVERBAR,cSMALL CIRCLE ABOVE,cRIGHT ARROW ABOVE,cLEFT ARROW ABOVE
CIRCLE WITH HORIZONTAL BAR,CIRCLED VERTICAL BAR,aPARALLEL,aREVERSE SOLIDUS,aPERPENDICULAR
CIRCLE DIVIDED BY HORIZONTAL BAR AND TOP HALF DIVIDED BY VERTICAL BAR,aWITH SUPERIMPOSED X
CIRCLED ANTICLOCKWISE-ROTATED DIVISION SIGN,UP ARROW THROUGH CIRCLE,CIRCLED WHITE BULLET,aBULLET
aLESS-THAN,aGREATER-THAN,CIRCLE WITH SMALL CIRCLE TO THE RIGHT
bTWO HORIZONTAL STROKES TO THE RIGHT,SQUARED RISING DIAGONAL SLASH,aFALLING DIAGONAL SLASH
aASTERISK,aSMALL CIRCLE,aSQUARE,TWO JOINED SQUARES,TRIANGLE WITH DOT ABOVE,bUNDERBAR,S IN TRIANGLE
TRIANGLE WITH SERIFS AT BOTTOM,RIGHT TRIANGLE ABOVE LEFT TRIANGLE
LEFT TRIANGLE BESIDE VERTICAL BAR,VERTICAL BAR BESIDE RIGHT TRIANGLE,BOWTIE WITH LEFT HALF BLACK
bRIGHT HALF BLACK,BLACK BOWTIE,TIMES WITH LEFT HALF BLACK,bRIGHT HALF BLACK,WHITE HOURGLASS
BLACK HOURGLASS,LEFT WIGGLY FENCE,RIGHT WIGGLY FENCE,LEFT DOUBLE WIGGLY FENCE
RIGHT DOUBLE WIGGLY FENCE,INCOMPLETE INFINITY,TIE OVER INFINITY,INFINITY NEGATED WITH VERTICAL BAR
DOUBLE-ENDED MULTIMAP,SQUARE WITH CONTOURED OUTLINE,INCREASES AS,SHUFFLE PRODUCT
EQUALS SIGN AND SLANTED PARALLEL,eWITH TILDE ABOVE,IDENTICAL TO AND SLANTED PARALLEL,GLEICH STARK
THERMODYNAMIC,DOWN-POINTING TRIANGLE WITH LEFT HALF BLACK,cRIGHT HALF BLACK
BLACK DIAMOND WITH DOWN ARROW,aLOZENGE,WHITE CIRCLE WITH DOWN ARROW,BLACK CIRCLE WITH DOWN ARROW
ERROR-BARRED WHITE SQUARE,aBLACK SQUARE,aWHITE DIAMOND,aBLACK DIAMOND,aWHITE CIRCLE,aBLACK CIRCLE
RULE-DELAYED,REVERSE SOLIDUS OPERATOR,SOLIDUS WITH OVERBAR,REVERSE SOLIDUS WITH HORIZONTAL STROKE
BIG SOLIDUS,aREVERSE SOLIDUS,DOUBLE PLUS,TRIPLE PLUS,LEFT-POINTING CURVED ANGLE BRACKET
RIGHT-POINTING CURVED ANGLE BRACKET,TINY,MINY,N-ARY CIRCLED DOT OPERATOR,bPLUS OPERATOR
bTIMES OPERATOR,aUNION OPERATOR WITH DOT,dPLUS,aSQUARE INTERSECTION OPERATOR,bUNION OPERATOR
TWO LOGICAL AND OPERATOR,bOR OPERATOR,N-ARY TIMES OPERATOR,MODULO TWO SUM,SUMMATION WITH INTEGRAL
QUADRUPLE INTEGRAL OPERATOR,FINITE PART INTEGRAL,INTEGRAL WITH DOUBLE STROKE,aAVERAGE WITH SLASH
CIRCULATION FUNCTION,ANTICLOCKWISE INTEGRATION,LINE INTEGRATION WITH RECTANGULAR PATH AROUND POLE
cSEMICIRCULAR PATH AROUND POLE,bNOT INCLUDING THE POLE,INTEGRAL AROUND A POINT OPERATOR
QUATERNION INTEGRAL OPERATOR,INTEGRAL WITH LEFTWARDS ARROW WITH HOOK,bTIMES SIGN,bINTERSECTION
bUNION,bOVERBAR,bUNDERBAR,JOIN,LARGE LEFT TRIANGLE OPERATOR,Z NOTATION SCHEMA COMPOSITION,cPIPING
cPROJECTION,PLUS SIGN WITH SMALL CIRCLE ABOVE,cCIRCUMFLEX ACCENT ABOVE,cTILDE ABOVE,cDOT BELOW
cTILDE BELOW,cSUBSCRIPT TWO,cBLACK TRIANGLE,MINUS SIGN WITH COMMA ABOVE,cDOT BELOW,cFALLING DOTS
cRISING DOTS,PLUS SIGN IN LEFT HALF CIRCLE,cRIGHT HALF CIRCLE,VECTOR OR CROSS PRODUCT
MULTIPLICATION SIGN WITH DOT ABOVE,cUNDERBAR,SEMIDIRECT PRODUCT WITH BOTTOM CLOSED,SMASH PRODUCT
MULTIPLICATION SIGN IN LEFT HALF CIRCLE,cRIGHT HALF CIRCLE
CIRCLED MULTIPLICATION SIGN WITH CIRCUMFLEX ACCENT,MULTIPLICATION SIGN IN DOUBLE CIRCLE
CIRCLED DIVISION SIGN,PLUS SIGN IN TRIANGLE,MINUS SIGN IN TRIANGLE,MULTIPLICATION SIGN IN TRIANGLE
INTERIOR PRODUCT,RIGHTHAND INTERIOR PRODUCT,Z NOTATION RELATIONAL COMPOSITION
AMALGAMATION OR COPRODUCT,INTERSECTION WITH DOT,UNION WITH MINUS SIGN,bOVERBAR
INTERSECTION WITH OVERBAR,bLOGICAL AND,UNION WITH LOGICAL OR,aABOVE INTERSECTION
INTERSECTION ABOVE UNION,UNION ABOVE BAR ABOVE INTERSECTION,INTERSECTION ABOVE BAR ABOVE UNION
UNION BESIDE AND JOINED WITH UNION,INTERSECTION BESIDE AND JOINED WITH INTERSECTION
CLOSED UNION WITH SERIFS,aINTERSECTION WITH SERIFS,DOUBLE SQUARE INTERSECTION,bUNION
CLOSED UNION WITH SERIFS AND SMASH PRODUCT,LOGICAL AND WITH DOT ABOVE,aOR WITH DOT ABOVE
DOUBLE LOGICAL AND,bOR,TWO INTERSECTING LOGICAL AND,cOR,SLOPING LARGE OR,bAND
LOGICAL OR OVERLAPPING LOGICAL AND,aAND WITH MIDDLE STEM,aOR WITH MIDDLE STEM
aAND WITH HORIZONTAL DASH,aOR WITH HORIZONTAL DASH,aAND WITH DOUBLE OVERBAR,cUNDERBAR
cDOUBLE UNDERBAR,SMALL VEE WITH UNDERBAR,LOGICAL OR WITH DOUBLE OVERBAR,dUNDERBAR
Z NOTATION DOMAIN ANTIRESTRICTION,bRANGE ANTIRESTRICTION,EQUALS SIGN WITH DOT BELOW
IDENTICAL WITH DOT ABOVE,TRIPLE HORIZONTAL BAR WITH DOUBLE VERTICAL STROKE,dTRIPLE VERTICAL STROKE
TILDE OPERATOR WITH DOT ABOVE,cRISING DOTS,SIMILAR MINUS SIMILAR,CONGRUENT WITH DOT ABOVE
EQUALS WITH ASTERISK,ALMOST EQUAL TO WITH CIRCUMFLEX ACCENT,APPROXIMATELY EQUAL OR EQUAL TO
EQUALS SIGN ABOVE PLUS SIGN,PLUS SIGN ABOVE EQUALS SIGN,EQUALS SIGN ABOVE TILDE OPERATOR
DOUBLE COLON EQUAL,TWO CONSECUTIVE EQUALS SIGNS,THREE CONSECUTIVE EQUALS SIGNS
EQUALS SIGN WITH TWO DOTS ABOVE AND TWO DOTS BELOW,EQUIVALENT WITH FOUR DOTS ABOVE
LESS-THAN WITH CIRCLE INSIDE,GREATER-THAN WITH CIRCLE INSIDE,LESS-THAN WITH QUESTION MARK ABOVE
GREATER-THAN WITH QUESTION MARK ABOVE,LESS-THAN OR SLANTED EQUAL TO
GREATER-THAN OR SLANTED EQUAL TO,LESS-THAN OR SLANTED EQUAL TO WITH DOT INSIDE
GREATER-THAN OR SLANTED EQUAL TO WITH DOT INSIDE,LESS-THAN OR SLANTED EQUAL TO WITH DOT ABOVE
GREATER-THAN OR SLANTED EQUAL TO WITH DOT ABOVE,LESS-THAN OR SLANTED EQUAL TO WITH DOT ABOVE RIGHT
GREATER-THAN OR SLANTED EQUAL TO WITH DOT ABOVE LEFT,LESS-THAN OR APPROXIMATE
GREATER-THAN OR APPROXIMATE,LESS-THAN AND SINGLE-LINE NOT EQUAL TO
GREATER-THAN AND SINGLE-LINE NOT EQUAL TO,LESS-THAN AND NOT APPROXIMATE
GREATER-THAN AND NOT APPROXIMATE,LESS-THAN ABOVE DOUBLE-LINE EQUAL ABOVE GREATER-THAN
GREATER-THAN ABOVE DOUBLE-LINE EQUAL ABOVE LESS-THAN,LESS-THAN ABOVE SIMILAR OR EQUAL
GREATER-THAN ABOVE SIMILAR OR EQUAL,LESS-THAN ABOVE SIMILAR ABOVE GREATER-THAN
GREATER-THAN ABOVE SIMILAR ABOVE LESS-THAN,LESS-THAN ABOVE GREATER-THAN ABOVE DOUBLE-LINE EQUAL
GREATER-THAN ABOVE LESS-THAN ABOVE DOUBLE-LINE EQUAL
LESS-THAN ABOVE SLANTED EQUAL ABOVE GREATER-THAN ABOVE SLANTED EQUAL
GREATER-THAN ABOVE SLANTED EQUAL ABOVE LESS-THAN ABOVE SLANTED EQUAL,SLANTED EQUAL TO OR LESS-THAN
dGREATER-THAN,dLESS-THAN WITH DOT INSIDE,dGREATER-THAN WITH DOT INSIDE
DOUBLE-LINE EQUAL TO OR LESS-THAN,dGREATER-THAN,aSLANTED EQUAL TO OR LESS-THAN,eGREATER-THAN
SIMILAR OR LESS-THAN,bGREATER-THAN,aABOVE LESS-THAN ABOVE EQUALS SIGN
bGREATER-THAN ABOVE EQUALS SIGN,DOUBLE NESTED LESS-THAN,bGREATER-THAN,bLESS-THAN WITH UNDERBAR
GREATER-THAN OVERLAPPING LESS-THAN,aBESIDE LESS-THAN,LESS-THAN CLOSED BY CURVE
GREATER-THAN CLOSED BY CURVE,LESS-THAN CLOSED BY CURVE ABOVE SLANTED EQUAL
GREATER-THAN CLOSED BY CURVE ABOVE SLANTED EQUAL,SMALLER THAN,LARGER THAN,SMALLER THAN OR EQUAL TO
LARGER THAN OR EQUAL TO,EQUALS SIGN WITH BUMPY ABOVE,PRECEDES ABOVE SINGLE-LINE EQUALS SIGN
SUCCEEDS ABOVE SINGLE-LINE EQUALS SIGN,PRECEDES ABOVE SINGLE-LINE NOT EQUAL TO
SUCCEEDS ABOVE SINGLE-LINE NOT EQUAL TO,PRECEDES ABOVE EQUALS SIGN,SUCCEEDS ABOVE EQUALS SIGN
PRECEDES ABOVE NOT EQUAL TO,SUCCEEDS ABOVE NOT EQUAL TO,PRECEDES ABOVE ALMOST EQUAL TO
SUCCEEDS ABOVE ALMOST EQUAL TO,PRECEDES ABOVE NOT ALMOST EQUAL TO
SUCCEEDS ABOVE NOT ALMOST EQUAL TO,DOUBLE PRECEDES,aSUCCEEDS,SUBSET WITH DOT,SUPERSET WITH DOT
SUBSET WITH PLUS SIGN BELOW,SUPERSET WITH PLUS SIGN BELOW,SUBSET WITH MULTIPLICATION SIGN BELOW
SUPERSET WITH MULTIPLICATION SIGN BELOW,SUBSET OF OR EQUAL TO WITH DOT ABOVE
SUPERSET OF OR EQUAL TO WITH DOT ABOVE,SUBSET OF ABOVE EQUALS SIGN,SUPERSET OF ABOVE EQUALS SIGN
SUBSET OF ABOVE TILDE OPERATOR,SUPERSET OF ABOVE TILDE OPERATOR,SUBSET OF ABOVE ALMOST EQUAL TO
SUPERSET OF ABOVE ALMOST EQUAL TO,SUBSET OF ABOVE NOT EQUAL TO,SUPERSET OF ABOVE NOT EQUAL TO
SQUARE LEFT OPEN BOX OPERATOR,aRIGHT OPEN BOX OPERATOR,CLOSED SUBSET,aSUPERSET,aSUBSET OR EQUAL TO
aSUPERSET OR EQUAL TO,SUBSET ABOVE SUPERSET,SUPERSET ABOVE SUBSET,SUBSET ABOVE SUBSET
SUPERSET ABOVE SUPERSET,aBESIDE SUBSET,bAND JOINED BY DASH WITH SUBSET
ELEMENT OF OPENING DOWNWARDS,PITCHFORK WITH TEE TOP,TRANSVERSAL INTERSECTION,FORKING,NONFORKING
SHORT LEFT TACK,aDOWN TACK,aUP TACK,PERPENDICULAR WITH S,VERTICAL BAR TRIPLE RIGHT TURNSTILE
DOUBLE VERTICAL BAR LEFT TURNSTILE,VERTICAL BAR DOUBLE LEFT TURNSTILE
DOUBLE VERTICAL BAR DOUBLE LEFT TURNSTILE,LONG DASH FROM LEFT MEMBER OF DOUBLE VERTICAL
SHORT DOWN TACK WITH OVERBAR,aUP TACK WITH UNDERBAR,cABOVE SHORT DOWN TACK,DOUBLE DOWN TACK
aUP TACK,aSTROKE NOT SIGN,REVERSED DOUBLE STROKE NOT SIGN
DOES NOT DIVIDE WITH REVERSED NEGATION SLASH,VERTICAL LINE WITH CIRCLE ABOVE,dBELOW
DOWN TACK WITH CIRCLE BELOW,PARALLEL WITH HORIZONTAL STROKE,bTILDE OPERATOR
TRIPLE VERTICAL BAR BINARY RELATION,cWITH HORIZONTAL STROKE,aCOLON OPERATOR,aNESTED LESS-THAN
bGREATER-THAN,DOUBLE-LINE SLANTED LESS-THAN OR EQUAL TO,bGREATER-THAN OR EQUAL TO
TRIPLE SOLIDUS BINARY RELATION,LARGE TRIPLE VERTICAL BAR OPERATOR,DOUBLE SOLIDUS OPERATOR
WHITE VERTICAL BAR,N-ARY WHITE VERTICAL BAR,NORTH EAST WHITE ARROW,aWEST WHITE ARROW
SOUTH EAST WHITE ARROW,aWEST WHITE ARROW,LEFT RIGHT WHITE ARROW,LEFTWARDS BLACK ARROW
UPWARDS BLACK ARROW,DOWNWARDS BLACK ARROW,NORTH EAST BLACK ARROW,aWEST BLACK ARROW
SOUTH EAST BLACK ARROW,aWEST BLACK ARROW,LEFT RIGHT BLACK ARROW,UP DOWN BLACK ARROW
RIGHTWARDS ARROW WITH TIP DOWNWARDS,dUPWARDS,LEFTWARDS ARROW WITH TIP DOWNWARDS,dUPWARDS
SQUARE WITH TOP HALF BLACK,bBOTTOM HALF BLACK,bUPPER RIGHT DIAGONAL HALF BLACK
bLOWER LEFT DIAGONAL HALF BLACK,DIAMOND WITH LEFT HALF BLACK,bRIGHT HALF BLACK,bTOP HALF BLACK
bBOTTOM HALF BLACK,DOTTED SQUARE,BLACK LARGE SQUARE,WHITE LARGE SQUARE,BLACK VERY SMALL SQUARE
WHITE VERY SMALL SQUARE,BLACK PENTAGON,WHITE PENTAGON,aHEXAGON,BLACK HEXAGON
HORIZONTAL BLACK HEXAGON,BLACK LARGE CIRCLE,aMEDIUM DIAMOND,WHITE MEDIUM DIAMOND
BLACK MEDIUM LOZENGE,WHITE MEDIUM LOZENGE,BLACK SMALL DIAMOND,bLOZENGE,WHITE SMALL LOZENGE
BLACK HORIZONTAL ELLIPSE,WHITE HORIZONTAL ELLIPSE,BLACK VERTICAL ELLIPSE,WHITE VERTICAL ELLIPSE
LEFT ARROW WITH SMALL CIRCLE,THREE LEFTWARDS ARROWS,LEFT ARROW WITH CIRCLED PLUS
LONG LEFTWARDS SQUIGGLE ARROW,LEFTWARDS TWO-HEADED ARROW WITH VERTICAL STROKE
dDOUBLE VERTICAL STROKE,cFROM BAR,bTRIPLE DASH ARROW,aARROW WITH DOTTED STEM
cTAIL WITH VERTICAL STROKE,eDOUBLE VERTICAL STROKE,aTWO-HEADED ARROW WITH TAIL
eWITH VERTICAL STROKE,fDOUBLE VERTICAL STROKE,aARROW THROUGH X,WAVE ARROW POINTING DIRECTLY LEFT
EQUALS SIGN ABOVE LEFTWARDS ARROW,REVERSE TILDE OPERATOR ABOVE LEFTWARDS ARROW
LEFTWARDS ARROW ABOVE REVERSE ALMOST EQUAL TO,RIGHTWARDS ARROW THROUGH GREATER-THAN,cSUPERSET
LEFTWARDS QUADRUPLE ARROW,RIGHTWARDS QUADRUPLE ARROW,REVERSE TILDE OPERATOR ABOVE RIGHTWARDS ARROW
RIGHTWARDS ARROW ABOVE REVERSE ALMOST EQUAL TO,TILDE OPERATOR ABOVE LEFTWARDS ARROW
LEFTWARDS ARROW ABOVE ALMOST EQUAL TO,cREVERSE TILDE OPERATOR
RIGHTWARDS ARROW ABOVE REVERSE TILDE OPERATOR,DOWNWARDS TRIANGLE-HEADED ZIGZAG ARROW
SHORT SLANTED NORTH ARROW,aBACKSLANTED SOUTH ARROW,WHITE MEDIUM STAR,BLACK SMALL STAR
WHITE SMALL STAR,BLACK RIGHT-POINTING PENTAGON,WHITE RIGHT-POINTING PENTAGON,HEAVY LARGE CIRCLE
aOVAL WITH OVAL INSIDE,aCIRCLE WITH CIRCLE INSIDE,b,aCIRCLED SALTIRE
SLANTED NORTH ARROW WITH HOOKED HEAD,BACKSLANTED SOUTH ARROW WITH HOOKED TAIL
SLANTED NORTH ARROW WITH HORIZONTAL TAIL,BACKSLANTED SOUTH ARROW WITH HORIZONTAL TAIL
BENT ARROW POINTING DOWNWARDS THEN NORTH EAST,SHORT BENT ARROW POINTING DOWNWARDS THEN NORTH EAST
LEFTWARDS TRIANGLE-HEADED ARROW,UPWARDS TRIANGLE-HEADED ARROW,RIGHTWARDS TRIANGLE-HEADED ARROW
DOWNWARDS TRIANGLE-HEADED ARROW,LEFT RIGHT TRIANGLE-HEADED ARROW,UP DOWN TRIANGLE-HEADED ARROW
NORTH WEST TRIANGLE-HEADED ARROW,aEAST TRIANGLE-HEADED ARROW,SOUTH EAST TRIANGLE-HEADED ARROW
aWEST TRIANGLE-HEADED ARROW,LEFTWARDS TRIANGLE-HEADED DASHED ARROW
UPWARDS TRIANGLE-HEADED DASHED ARROW,RIGHTWARDS TRIANGLE-HEADED DASHED ARROW
DOWNWARDS TRIANGLE-HEADED DASHED ARROW,CLOCKWISE TRIANGLE-HEADED OPEN CIRCLE ARROW
ANTICLOCKWISE TRIANGLE-HEADED OPEN CIRCLE ARROW,LEFTWARDS TRIANGLE-HEADED ARROW TO BAR
UPWARDS TRIANGLE-HEADED ARROW TO BAR,RIGHTWARDS TRIANGLE-HEADED ARROW TO BAR
DOWNWARDS TRIANGLE-HEADED ARROW TO BAR,2B76:NORTH WEST TRIANGLE-HEADED ARROW TO BAR
aEAST TRIANGLE-HEADED ARROW TO BAR,SOUTH EAST TRIANGLE-HEADED ARROW TO BAR
aWEST TRIANGLE-HEADED ARROW TO BAR,LEFTWARDS TRIANGLE-HEADED ARROW WITH DOUBLE HORIZONTAL STROKE
UPWARDS TRIANGLE-HEADED ARROW WITH DOUBLE HORIZONTAL STROKE
RIGHTWARDS TRIANGLE-HEADED ARROW WITH DOUBLE HORIZONTAL STROKE
DOWNWARDS TRIANGLE-HEADED ARROW WITH DOUBLE HORIZONTAL STROKE,HORIZONTAL TAB KEY,VERTICAL TAB KEY
LEFTWARDS TRIANGLE-HEADED ARROW OVER RIGHTWARDS TRIANGLE-HEADED ARROW
UPWARDS TRIANGLE-HEADED ARROW LEFTWARDS OF DOWNWARDS TRIANGLE-HEADED ARROW
RIGHTWARDS TRIANGLE-HEADED ARROW OVER LEFTWARDS TRIANGLE-HEADED ARROW
DOWNWARDS TRIANGLE-HEADED ARROW LEFTWARDS OF UPWARDS TRIANGLE-HEADED ARROW
LEFTWARDS TRIANGLE-HEADED PAIRED ARROWS,UPWARDS TRIANGLE-HEADED PAIRED ARROWS
RIGHTWARDS TRIANGLE-HEADED PAIRED ARROWS,DOWNWARDS TRIANGLE-HEADED PAIRED ARROWS
LEFTWARDS BLACK CIRCLED WHITE ARROW,UPWARDS BLACK CIRCLED WHITE ARROW
RIGHTWARDS BLACK CIRCLED WHITE ARROW,DOWNWARDS BLACK CIRCLED WHITE ARROW
ANTICLOCKWISE TRIANGLE-HEADED RIGHT U-SHAPED ARROW,bBOTTOM U-SHAPED ARROW,bLEFT U-SHAPED ARROW
bTOP U-SHAPED ARROW,RETURN LEFT,aRIGHT,NEWLINE LEFT,aRIGHT
FOUR CORNER ARROWS CIRCLING ANTICLOCKWISE,RIGHTWARDS BLACK ARROW
2B97:SYMBOL FOR TYPE A ELECTRONICS,THREE-D TOP-LIGHTED LEFTWARDS EQUILATERAL ARROWHEAD
aRIGHT-LIGHTED UPWARDS EQUILATERAL ARROWHEAD,aTOP-LIGHTED RIGHTWARDS EQUILATERAL ARROWHEAD
aLEFT-LIGHTED DOWNWARDS EQUILATERAL ARROWHEAD,BLACK LEFTWARDS EQUILATERAL ARROWHEAD
aUPWARDS EQUILATERAL ARROWHEAD,aRIGHTWARDS EQUILATERAL ARROWHEAD,aDOWNWARDS EQUILATERAL ARROWHEAD
DOWNWARDS TRIANGLE-HEADED ARROW WITH LONG TIP LEFTWARDS,fRIGHTWARDS
UPWARDS TRIANGLE-HEADED ARROW WITH LONG TIP LEFTWARDS,fRIGHTWARDS
LEFTWARDS TRIANGLE-HEADED ARROW WITH LONG TIP UPWARDS
RIGHTWARDS TRIANGLE-HEADED ARROW WITH LONG TIP UPWARDS
LEFTWARDS TRIANGLE-HEADED ARROW WITH LONG TIP DOWNWARDS
RIGHTWARDS TRIANGLE-HEADED ARROW WITH LONG TIP DOWNWARDS
BLACK CURVED DOWNWARDS AND LEFTWARDS ARROW,dRIGHTWARDS ARROW,bUPWARDS AND LEFTWARDS ARROW
dRIGHTWARDS ARROW,bLEFTWARDS AND UPWARDS ARROW,bRIGHTWARDS AND UPWARDS ARROW
bLEFTWARDS AND DOWNWARDS ARROW,bRIGHTWARDS AND DOWNWARDS ARROW,RIBBON ARROW DOWN LEFT,cRIGHT
bUP LEFT,cRIGHT,bLEFT UP,bRIGHT UP,bLEFT DOWN,bRIGHT DOWN
UPWARDS WHITE ARROW FROM BAR WITH HORIZONTAL BAR,UP ARROWHEAD IN A RECTANGLE BOX
OVERLAPPING WHITE SQUARES,bAND BLACK SQUARES,aBLACK SQUARES,BALLOT BOX WITH LIGHT X,CIRCLED X
aBOLD X,BLACK SQUARE CENTRED,aDIAMOND CENTRED,TURNED BLACK PENTAGON,HORIZONTAL BLACK OCTAGON
BLACK OCTAGON,aMEDIUM UP-POINTING TRIANGLE CENTRED,bDOWN-POINTING TRIANGLE CENTRED
bLEFT-POINTING TRIANGLE CENTRED,bRIGHT-POINTING TRIANGLE CENTRED,NEPTUNE FORM TWO
TOP HALF BLACK CIRCLE,BOTTOM HALF BLACK CIRCLE,LIGHT FOUR POINTED BLACK CUSP
ROTATED LIGHT FOUR POINTED BLACK CUSP,WHITE FOUR POINTED CUSP,ROTATED WHITE FOUR POINTED CUSP
SQUARE POSITION INDICATOR,UNCERTAINTY SIGN,GROUP MARK,PLUTO FORM TWO,bTHREE,bFOUR,bFIVE,TRANSPLUTO
PROSERPINA,ASTRAEA,HYGIEA,PHOLUS,NESSUS,WHITE MOON SELENA,BLACK DIAMOND ON CROSS
TRUE LIGHT MOON ARTA,CUPIDO,HADES,ZEUS,KRONOS,APOLLON,ADMETOS,VULCANUS,POSEIDON
LEFT HALF BLACK STAR,RIGHT HALF BLACK STAR,STAR WITH LEFT HALF BLACK,bRIGHT HALF BLACK
LEFTWARDS TWO-HEADED ARROW WITH TRIANGLE ARROWHEADS
UPWARDS TWO-HEADED ARROW WITH TRIANGLE ARROWHEADS
RIGHTWARDS TWO-HEADED ARROW WITH TRIANGLE ARROWHEADS
DOWNWARDS TWO-HEADED ARROW WITH TRIANGLE ARROWHEADS,ERIS FORM ONE,bTWO,SEDNA
RUSSIAN ASTROLOGICAL SYMBOL VIGINTILE,cNOVILE,cQUINTILE,cBINOVILE,cSENTAGON,cTREDECILE
EQUALS SIGN WITH INFINITY BELOW,UNITED SYMBOL,SEPARATED SYMBOL,DOUBLED SYMBOL,PASSED SYMBOL
REVERSED RIGHT ANGLE,HELLSCHREIBER PAUSE SYMBOL,GLAGOLITIC CAPITAL LETTER AZU,cBUKY,cVEDE,cGLAGOLI
cDOBRO,cYESTU,cZHIVETE,cDZELO,cZEMLJA,cIZHE,cINITIAL IZHE,cI,cDJERVI,cKAKO,cLJUDIJE,cMYSLITE
cNASHI,cONU,cPOKOJI,cRITSI,cSLOVO,cTVRIDO,cUKU,cFRITU,cHERU,cOTU,cPE,cSHTA,cTSI,cCHRIVI,cSHA,cYERU
cYERI,cYATI,cSPIDERY HA,cYU,cSMALL YUS,eWITH TAIL,cYO,cIOTATED SMALL YUS,cBIG YUS,cIOTATED BIG YUS
cFITA,cIZHITSA,cSHTAPIC,cTROKUTASTI A,cLATINATE MYSLITE,cCAUDATE CHRIVI,aSMALL LETTER AZU,cBUKY
cVEDE,cGLAGOLI,cDOBRO,cYESTU,cZHIVETE,cDZELO,cZEMLJA,cIZHE,cINITIAL IZHE,cI,cDJERVI,cKAKO,cLJUDIJE
cMYSLITE,cNASHI,cONU,cPOKOJI,cRITSI,cSLOVO,cTVRIDO,cUKU,cFRITU,cHERU,cOTU,cPE,cSHTA,cTSI,cCHRIVI
cSHA,cYERU,cYERI,cYATI,cSPIDERY HA,cYU,cSMALL YUS,eWITH TAIL,cYO,cIOTATED SMALL YUS,cBIG YUS
cIOTATED BIG YUS,cFITA,cIZHITSA,cSHTAPIC,cTROKUTASTI A,cLATINATE MYSLITE,cCAUDATE CHRIVI
LATIN CAPITAL LETTER L WITH DOUBLE BAR,aSMALL LETTER L WITH DOUBLE BAR
aCAPITAL LETTER L WITH MIDDLE TILDE,cP WITH STROKE,cR WITH TAIL,aSMALL LETTER A WITH STROKE
cT WITH DIAGONAL STROKE,aCAPITAL LETTER H WITH DESCENDER,aSMALL LETTER H WITH DESCENDER
aCAPITAL LETTER K WITH DESCENDER,aSMALL LETTER K WITH DESCENDER,aCAPITAL LETTER Z WITH DESCENDER
aSMALL LETTER Z WITH DESCENDER,aCAPITAL LETTER ALPHA,cM WITH HOOK,cTURNED A,dALPHA
aSMALL LETTER V WITH RIGHT HOOK,aCAPITAL LETTER W WITH HOOK,aSMALL LETTER W WITH HOOK,cV WITH CURL
aCAPITAL LETTER HALF H,aSMALL LETTER HALF H,cTAILLESS PHI,cE WITH NOTCH,cTURNED R WITH TAIL
cO WITH LOW RING INSIDE,aLETTER SMALL CAPITAL TURNED E,aSUBSCRIPT SMALL LETTER J
MODIFIER LETTER CAPITAL V,LATIN CAPITAL LETTER S WITH SWASH TAIL,cZ WITH SWASH TAIL
COPTIC CAPITAL LETTER ALFA,aSMALL LETTER ALFA,aCAPITAL LETTER VIDA,aSMALL LETTER VIDA
aCAPITAL LETTER GAMMA,aSMALL LETTER GAMMA,aCAPITAL LETTER DALDA,aSMALL LETTER DALDA
aCAPITAL LETTER EIE,aSMALL LETTER EIE,aCAPITAL LETTER SOU,aSMALL LETTER SOU,aCAPITAL LETTER ZATA
aSMALL LETTER ZATA,aCAPITAL LETTER HATE,aSMALL LETTER HATE,aCAPITAL LETTER THETHE
aSMALL LETTER THETHE,aCAPITAL LETTER IAUDA,aSMALL LETTER IAUDA,aCAPITAL LETTER KAPA
aSMALL LETTER KAPA,aCAPITAL LETTER LAULA,aSMALL LETTER LAULA,aCAPITAL LETTER MI,aSMALL LETTER MI
aCAPITAL LETTER NI,aSMALL LETTER NI,aCAPITAL LETTER KSI,aSMALL LETTER KSI,aCAPITAL LETTER O
aSMALL LETTER O,aCAPITAL LETTER PI,aSMALL LETTER PI,aCAPITAL LETTER RO,aSMALL LETTER RO
aCAPITAL LETTER SIMA,aSMALL LETTER SIMA,aCAPITAL LETTER TAU,aSMALL LETTER TAU,aCAPITAL LETTER UA
aSMALL LETTER UA,aCAPITAL LETTER FI,aSMALL LETTER FI,aCAPITAL LETTER KHI,aSMALL LETTER KHI
aCAPITAL LETTER PSI,aSMALL LETTER PSI,aCAPITAL LETTER OOU,aSMALL LETTER OOU
aCAPITAL LETTER DIALECT-P ALEF,aSMALL LETTER DIALECT-P ALEF,aCAPITAL LETTER OLD COPTIC AIN
aSMALL LETTER OLD COPTIC AIN,aCAPITAL LETTER CRYPTOGRAMMIC EIE,aSMALL LETTER CRYPTOGRAMMIC EIE
aCAPITAL LETTER DIALECT-P KAPA,aSMALL LETTER DIALECT-P KAPA,aCAPITAL LETTER DIALECT-P NI
aSMALL LETTER DIALECT-P NI,aCAPITAL LETTER CRYPTOGRAMMIC NI,aSMALL LETTER CRYPTOGRAMMIC NI
aCAPITAL LETTER OLD COPTIC OOU,aSMALL LETTER OLD COPTIC OOU,aCAPITAL LETTER SAMPI
aSMALL LETTER SAMPI,aCAPITAL LETTER CROSSED SHEI,aSMALL LETTER CROSSED SHEI
aCAPITAL LETTER OLD COPTIC SHEI,aSMALL LETTER OLD COPTIC SHEI,aCAPITAL LETTER OLD COPTIC ESH
aSMALL LETTER OLD COPTIC ESH,aCAPITAL LETTER AKHMIMIC KHEI,aSMALL LETTER AKHMIMIC KHEI
aCAPITAL LETTER DIALECT-P HORI,aSMALL LETTER DIALECT-P HORI,aCAPITAL LETTER OLD COPTIC HORI
aSMALL LETTER OLD COPTIC HORI,aCAPITAL LETTER OLD COPTIC HA,aSMALL LETTER OLD COPTIC HA
aCAPITAL LETTER L-SHAPED HA,aSMALL LETTER L-SHAPED HA,aCAPITAL LETTER OLD COPTIC HEI
aSMALL LETTER OLD COPTIC HEI,aCAPITAL LETTER OLD COPTIC HAT,aSMALL LETTER OLD COPTIC HAT
aCAPITAL LETTER OLD COPTIC GANGIA,aSMALL LETTER OLD COPTIC GANGIA,aCAPITAL LETTER OLD COPTIC DJA
aSMALL LETTER OLD COPTIC DJA,aCAPITAL LETTER OLD COPTIC SHIMA,aSMALL LETTER OLD COPTIC SHIMA
aCAPITAL LETTER OLD NUBIAN SHIMA,aSMALL LETTER OLD NUBIAN SHIMA,aCAPITAL LETTER OLD NUBIAN NGI
aSMALL LETTER OLD NUBIAN NGI,aCAPITAL LETTER OLD NUBIAN NYI,aSMALL LETTER OLD NUBIAN NYI
aCAPITAL LETTER OLD NUBIAN WAU,aSMALL LETTER OLD NUBIAN WAU,aSYMBOL KAI,bMI RO,bPI RO,bSTAUROS
bTAU RO,bKHI RO,bSHIMA SIMA,aCAPITAL LETTER CRYPTOGRAMMIC SHEI,aSMALL LETTER CRYPTOGRAMMIC SHEI
aCAPITAL LETTER CRYPTOGRAMMIC GANGIA,aSMALL LETTER CRYPTOGRAMMIC GANGIA,aCOMBINING NI ABOVE
bSPIRITUS ASPER,cLENIS,aCAPITAL LETTER BOHAIRIC KHEI,aSMALL LETTER BOHAIRIC KHEI
2CF9:aOLD NUBIAN FULL STOP,cDIRECT QUESTION MARK,cINDIRECT QUESTION MARK,cVERSE DIVIDER
aFRACTION ONE HALF,aFULL STOP,aMORPHOLOGICAL DIVIDER,GEORGIAN SMALL LETTER AN,cBAN,cGAN,cDON,cEN
cVIN,cZEN,cTAN,cIN,cKAN,cLAS,cMAN,cNAR,cON,cPAR,cZHAR,cRAE,cSAN,cTAR,cUN,cPHAR,cKHAR,cGHAN,cQAR
cSHIN,cCHIN,cCAN,cJIL,cCIL,cCHAR,cXAN,cJHAN,cHAE,cHE,cHIE,cWE,cHAR,cHOE,2D27:cYN,2D2D:cAEN
2D30:TIFINAGH LETTER YA,bYAB,bYABH,bYAG,bYAGHH,bBERBER ACADEMY YAJ,bYAJ,bYAD,bYADH,bYADD,bYADDH
bYEY,bYAF,bYAK,bTUAREG YAK,bYAKHH,bYAH,bBERBER ACADEMY YAH,bTUAREG YAH,bYAHH,bYAA,bYAKH
bTUAREG YAKH,bYAQ,bTUAREG YAQ,bYI,bYAZH,bAHAGGAR YAZH,bTUAREG YAZH,bYAL,bYAM,bYAN,bTUAREG YAGN
cYANG,bYAP,bYU,bYAR,bYARR,bYAGH,bTUAREG YAGH,bAYER YAGH,bYAS,bYASS,bYASH,bYAT,bYATH,bYACH,bYATT
bYAV,bYAW,bYAY,bYAZ,bTAWELLEMET YAZ,bYAZZ,bYE,bYO,2D6F:aMODIFIER LETTER LABIALIZATION MARK
aSEPARATOR MARK,2D7F:aCONSONANT JOINER,ETHIOPIC SYLLABLE LOA,bMOA,bROA,bSOA,bSHOA,bBOA,bTOA,bCOA
bNOA,bNYOA,bGLOTTAL OA,bZOA,bDOA,bDDOA,bJOA,bTHOA,bCHOA,bPHOA,bPOA,bGGWA,bGGWI,bGGWEE,bGGWE
2DA0:bSSA,bSSU,bSSI,bSSAA,bSSEE,bSSE,bSSO,2DA8:bCCA,bCCU,bCCI,bCCAA,bCCEE,bCCE,bCCO,2DB0:bZZA,bZZU
bZZI,bZZAA,bZZEE,bZZE,bZZO,2DB8:bCCHA,bCCHU,bCCHI,bCCHAA,bCCHEE,bCCHE,bCCHO,2DC0:bQYA,bQYU,bQYI
bQYAA,bQYEE,bQYE,bQYO,2DC8:bKYA,bKYU,bKYI,bKYAA,bKYEE,bKYE,bKYO,2DD0:bXYA,bXYU,bXYI,bXYAA,bXYEE
bXYE,bXYO,2DD8:bGYA,bGYU,bGYI,bGYAA,bGYEE,bGYE,bGYO,2DE0:COMBINING CYRILLIC LETTER BE,cVE,cGHE,cDE
cZHE,cZE,cKA,cEL,cEM,cEN,cO,cPE,cER,cES,cTE,cHA,cTSE,cCHE,cSHA,cSHCHA,cFITA,cES-TE,cA,cIE,cDJERV
cMONOGRAPH UK,cYAT,cYU,cIOTIFIED A,cLITTLE YUS,cBIG YUS,cIOTIFIED BIG YUS
RIGHT ANGLE SUBSTITUTION MARKER,bDOTTED SUBSTITUTION MARKER,LEFT SUBSTITUTION BRACKET
RIGHT SUBSTITUTION BRACKET,LEFT DOTTED SUBSTITUTION BRACKET,RIGHT DOTTED SUBSTITUTION BRACKET
RAISED INTERPOLATION MARKER,aDOTTED INTERPOLATION MARKER,DOTTED TRANSPOSITION MARKER
LEFT TRANSPOSITION BRACKET,RIGHT TRANSPOSITION BRACKET,RAISED SQUARE,LEFT RAISED OMISSION BRACKET
RIGHT RAISED OMISSION BRACKET,EDITORIAL CORONIS,PARAGRAPHOS,FORKED PARAGRAPHOS
REVERSED FORKED PARAGRAPHOS,HYPODIASTOLE,DOTTED OBELOS,DOWNWARDS ANCORA,UPWARDS ANCORA
DOTTED RIGHT-POINTING ANGLE,DOUBLE OBLIQUE HYPHEN,INVERTED INTERROBANG,PALM BRANCH
HYPHEN WITH DIAERESIS,TILDE WITH RING ABOVE,LEFT LOW PARAPHRASE BRACKET
RIGHT LOW PARAPHRASE BRACKET,TILDE WITH DOT ABOVE,cBELOW,LEFT VERTICAL BAR WITH QUILL
RIGHT VERTICAL BAR WITH QUILL,TOP LEFT HALF BRACKET,aRIGHT HALF BRACKET,BOTTOM LEFT HALF BRACKET
aRIGHT HALF BRACKET,LEFT SIDEWAYS U BRACKET,RIGHT SIDEWAYS U BRACKET,LEFT DOUBLE PARENTHESIS
RIGHT DOUBLE PARENTHESIS,TWO DOTS OVER ONE DOT PUNCTUATION,ONE DOT OVER TWO DOTS PUNCTUATION
SQUARED FOUR DOT PUNCTUATION,FIVE DOT MARK,REVERSED QUESTION MARK,VERTICAL TILDE,RING POINT
WORD SEPARATOR MIDDLE DOT,TURNED COMMA,RAISED DOT,aCOMMA,TURNED SEMICOLON,DAGGER WITH LEFT GUARD
bRIGHT GUARD,TURNED DAGGER,TOP HALF SECTION SIGN,TWO-EM DASH,THREE-EM DASH,STENOGRAPHIC FULL STOP
VERTICAL SIX DOTS,WIGGLY VERTICAL LINE,CAPITULUM,DOUBLE HYPHEN,REVERSED COMMA
DOUBLE LOW-REVERSED-9 QUOTATION MARK,DASH WITH LEFT UPTURN,DOUBLE SUSPENSION MARK
INVERTED LOW KAVYKA,cWITH KAVYKA ABOVE,LOW KAVYKA,bWITH DOT,DOUBLE STACKED COMMA,DOTTED SOLIDUS
TRIPLE DAGGER,MEDIEVAL COMMA,PARAGRAPHUS MARK,PUNCTUS ELEVATUS MARK,CORNISH VERSE DIVIDER
CROSS PATTY WITH RIGHT CROSSBAR,cLEFT CROSSBAR,TIRONIAN SIGN CAPITAL ET,MEDIEVAL EXCLAMATION MARK
aQUESTION MARK,LEFT SQUARE BRACKET WITH STROKE,RIGHT SQUARE BRACKET WITH STROKE
LEFT SQUARE BRACKET WITH DOUBLE STROKE,RIGHT SQUARE BRACKET WITH DOUBLE STROKE
TOP HALF LEFT PARENTHESIS,bRIGHT PARENTHESIS,BOTTOM HALF LEFT PARENTHESIS,bRIGHT PARENTHESIS
OBLIQUE HYPHEN,2E80:CJK RADICAL REPEAT,bCLIFF,bSECOND ONE,cTWO,cTHREE,bPERSON,bBOX,bTABLE
bKNIFE ONE,cTWO,bDIVINATION,bSEAL,bSMALL ONE,cTWO,bLAME ONE,cTWO,cTHREE,cFOUR,bSNAKE,bTHREAD
bSNOUT ONE,cTWO,bHEART ONE,cTWO,bHAND,bRAP,2E9B:bCHOKE,bSUN,bMOON,bDEATH,bMOTHER,bCIVILIAN
bWATER ONE,cTWO,bFIRE,bPAW ONE,cTWO,bSIMPLIFIED HALF TREE TRUNK,bCOW,bDOG,bJADE,bBOLT OF CLOTH
bEYE,bSPIRIT ONE,cTWO,bBAMBOO,bSILK,bC-SIMPLIFIED SILK,bNET ONE,cTWO,cTHREE,cFOUR,bMESH,bSHEEP
bRAM,bEWE,bOLD,bBRUSH ONE,cTWO,bMEAT,bMORTAR,bGRASS ONE,cTWO,cTHREE,bTIGER,bCLOTHES,bWEST ONE,cTWO
bC-SIMPLIFIED SEE,bSIMPLIFIED HORN,bHORN,bC-SIMPLIFIED SPEECH,cSHELL,bFOOT,bC-SIMPLIFIED CART
bSIMPLIFIED WALK,bWALK ONE,cTWO,bCITY,bC-SIMPLIFIED GOLD,bLONG ONE,cTWO,bC-SIMPLIFIED LONG,cGATE
bMOUND ONE,cTWO,bRAIN,bBLUE,bC-SIMPLIFIED TANNED LEATHER,cLEAF,cWIND,cFLY,bEAT ONE,cTWO,cTHREE
bC-SIMPLIFIED EAT,bHEAD,bC-SIMPLIFIED HORSE,bBONE,bGHOST,bC-SIMPLIFIED FISH,cBIRD,cSALT
bSIMPLIFIED WHEAT,cYELLOW,bC-SIMPLIFIED FROG,bJ-SIMPLIFIED EVEN,bC-SIMPLIFIED EVEN
bJ-SIMPLIFIED TOOTH,bC-SIMPLIFIED TOOTH,bJ-SIMPLIFIED DRAGON,bC-SIMPLIFIED DRAGON,bTURTLE
bJ-SIMPLIFIED TURTLE,bC-SIMPLIFIED TURTLE,2F00:KANGXI RADICAL ONE,bLINE,bDOT,bSLASH,bSECOND,bHOOK
bTWO,bLID,bMAN,bLEGS,bENTER,bEIGHT,bDOWN BOX,bCOVER,bICE,bTABLE,bOPEN BOX,bKNIFE,bPOWER,bWRAP
bSPOON,bRIGHT OPEN BOX,bHIDING ENCLOSURE,bTEN,bDIVINATION,bSEAL,bCLIFF,bPRIVATE,bAGAIN,bMOUTH
bENCLOSURE,bEARTH,bSCHOLAR,bGO,cSLOWLY,bEVENING,bBIG,bWOMAN,bCHILD,bROOF,bINCH,bSMALL,bLAME
bCORPSE,bSPROUT,bMOUNTAIN,bRIVER,bWORK,bONESELF,bTURBAN,bDRY,bSHORT THREAD,bDOTTED CLIFF
bLONG STRIDE,bTWO HANDS,bSHOOT,bBOW,bSNOUT,bBRISTLE,bSTEP,bHEART,bHALBERD,bDOOR,bHAND,bBRANCH,bRAP
bSCRIPT,bDIPPER,bAXE,bSQUARE,bNOT,bSUN,bSAY,bMOON,bTREE,bLACK,bSTOP,bDEATH,bWEAPON,bDO NOT
bCOMPARE,bFUR,bCLAN,bSTEAM,bWATER,bFIRE,bCLAW,bFATHER,bDOUBLE X,bHALF TREE TRUNK,bSLICE,bFANG,bCOW
bDOG,bPROFOUND,bJADE,bMELON,bTILE,bSWEET,bLIFE,bUSE,bFIELD,bBOLT OF CLOTH,bSICKNESS,bDOTTED TENT
bWHITE,bSKIN,bDISH,bEYE,bSPEAR,bARROW,bSTONE,bSPIRIT,bTRACK,bGRAIN,bCAVE,bSTAND,bBAMBOO,bRICE
bSILK,bJAR,bNET,bSHEEP,bFEATHER,bOLD,bAND,bPLOW,bEAR,bBRUSH,bMEAT,bMINISTER,bSELF,bARRIVE,bMORTAR
bTONGUE,bOPPOSE,bBOAT,bSTOPPING,bCOLOR,bGRASS,bTIGER,bINSECT,bBLOOD,bWALK ENCLOSURE,bCLOTHES,bWEST
bSEE,bHORN,bSPEECH,bVALLEY,bBEAN,bPIG,bBADGER,bSHELL,bRED,bRUN,bFOOT,bBODY,bCART,bBITTER,bMORNING
bWALK,bCITY,bWINE,bDISTINGUISH,bVILLAGE,bGOLD,bLONG,bGATE,bMOUND,bSLAVE,bSHORT TAILED BIRD,bRAIN
bBLUE,bWRONG,bFACE,bLEATHER,bTANNED LEATHER,bLEEK,bSOUND,bLEAF,bWIND,bFLY,bEAT,bHEAD,bFRAGRANT
bHORSE,bBONE,bTALL,bHAIR,bFIGHT,bSACRIFICIAL WINE,bCAULDRON,bGHOST,bFISH,bBIRD,bSALT,bDEER,bWHEAT
bHEMP,bYELLOW,bMILLET,bBLACK,bEMBROIDERY,bFROG,bTRIPOD,bDRUM,bRAT,bNOSE,bEVEN,bTOOTH,bDRAGON
bTURTLE,bFLUTE,2FF0:IDEOGRAPHIC DESCRIPTION CHARACTER LEFT TO RIGHT,cABOVE TO BELOW
cLEFT TO MIDDLE AND RIGHT,cABOVE TO MIDDLE AND BELOW,cFULL SURROUND,cSURROUND FROM ABOVE,eBELOW
eLEFT,eUPPER LEFT,fRIGHT,eLOWER LEFT,cOVERLAID"

end RasterAlgebra.Text.CharacterName
