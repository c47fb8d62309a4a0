/-! # Words of character names

The words that are abbreviated in the tables of names.
-/

namespace Assay.Text.CharacterName

def wordLines : List String :=
  ["AA ABBREVIATION ABKHASIAN ABOVE ACCENT ACUTE AI AIN AIRPLANE ALEF ALEPH ALMOST ALPAPRAANA",
   "ALPHA ALTERNATE ALTERNATING AMPERSAND AN AND ANGLE ANTICLOCKWISE ANTIMONY ANUSVARA APOSTROPHE",
   "APPROXIMATELY ARABIC ARABIC-INDIC ARCHAIC ARCHAION ARROW ARROWHEAD ARROWS ASH ASTERISK",
   "ATTACHED AU AVAGRAHA AYIN BA BACK BACKHAND BACKSLASH BAD BALL BAMBOOS BAR BARB BARRED BEH",
   "BELOW BENT BESIDE BETA BETH BETWEEN BHA BIRGA BISHOP BLACK BLACK-LETTER BLOCK BOLD BOTTOM BOX",
   "BRACKET BREVE BUBBLE BULLET C-SIMPLIFIED CA CANCELLATION CANDRA CANDRABINDU CAPITAL CARET",
   "CARON CARRIER CEDILLA CEILING CENTRALIZATION CENTRE CENTRED CHA CHARACTER CHARACTERS CHE CHECK",
   "CHESS CHI CHIEUCH CIRCLE CIRCLED CIRCLES CIRCUMFLEX CLICK CLOCKWISE CLOSED CLUBS COLON",
   "COMBINING COMMA COMMERCIAL COMPRESSED CONJOINED CONSONANT CONTAINING CONTAINS CONTROL COPTIC",
   "CORNER CRESCENT CRESCENTS CROSS CROSSED CROSSED-TAIL CROSSING CRYPTOGRAMMIC CURL CURLY CURVE",
   "CURVED CYRILLIC DA DAD DAGESH DALETH DAMMA DANDA DASH DASHED DASIA DDA DDHA DEGREES DELTA",
   "DESCENDER DHA DIAERESIS DIAGONAL DIALECT-P DIALYTIKA DIAMOND DIAMONDS DIFFERENTIAL DIGIT",
   "DIGRAPH DISH DIVISION DODEKATA DOT DOTLESS DOTS DOTTED DOUBLE DOUBLE-LINE DOUBLE-STRUCK DOWN",
   "DOWN-POINTING DOWNWARDS DRAGON EARTH EAST EE EGYPTOLOGICAL EIGHT EIGHTEEN EIGHTH EIGHTHS",
   "EIGHTY ELEMENT ELEVEN ELLIPSIS EN END ENVELOPE EPSILON EQUAL EQUALS EQUIHOPPER EQUILATERAL",
   "EQUIVALENT ESH ETA EXCLAMATION EXTENDED EXTENSION EXTREMELY EYES FA FACE FALLING FATHA",
   "FATHATAN FEH FIFTEEN FIFTY FILL FILLER FINAL FINGER FINGERS FISHHOOK FIVE FLAG FLOOR FOR FORM",
   "FORTY FORWARD FOUR FOURTEEN FRACTION FROM FULL GA GAMMA GAN2 GAR GEMINATION GHA GHAIN GHE",
   "GIMEL GISH GLOTTAL GRAVE GREATER-THAN GREEK GROMOPOVODNAYA GUNU HA HAH HALF HAMZA HAND",
   "HAND-ANGLE HAND-CIRCLE HAND-CUP HAND-CURLICUE HAND-FIST HAND-HINGE HAND-HOOK HANGUL HARPOON HE",
   "HEAD HEART HEARTS HEAVY HEH HETH HIGH HINGED HIRAGANA HITTING HOOK HORIZONTAL HORN HUNDRED",
   "HYPHEN HYPHEN-MINUS ICHOS IDEOGRAPHIC IGI II IN INDEPENDENT INDEX INDICATOR INFINITY",
   "INFORMATION INITIAL INSIDE INSULAR INTEGRAL INTERROBANG INTERSECTION INVERSE INVERTED IOTA",
   "IOTIFIED ISOLATED ITALIC ITERATION J-SIMPLIFIED JA JAPANESE JEEM JHA JIHVAMULIYA KA KAF KAPH",
   "KAPPA KAREN KASKAL KASRA KATAKANA KATAKANA-HIRAGANA KHA KHAH KHIEUKH KHOKHLOM KING KIYEOK",
   "KLYUCHEVAYA KNIGHT KOET KOMI KRYZHEM LA LAGAB LAM LAMDA LAMEDH LARGE LARGEST LATIN LEAF LEFT",
   "LEFT-POINTING LEFT-STEM LEFT-TO-RIGHT LEFTWARDS LEG LENGTH LENTICULAR LESS-THAN LETTER",
   "LIGATURE LIGHT LINE LITTLE LL LLA LOGICAL LONG LONSUM LOOP LOW LOWER LOZENGE LUNATE MA MACRON",
   "MADDA MAHAAPRAANA MAHAPRANA MAKSURA MAN MARK MARKER MATHEMATICAL MEDIAL MEDIUM MEEM MEM MIDDLE",
   "MIDDLE-WELSH MILLIONS MINUS MODIFIER MONOGRAM MOON MOUNTAIN MOUTH MOVEMENT MOVEMENT-FLOORPLANE",
   "MOVEMENT-WALLPLANE MU MULTIPLE MULTIPLICATION MURDA MUSICAL NA NASKAPI NEGATIVE NEO",
   "NEPOSTOYANNAYA NEUTRAL NGA NINE NINETEEN NINETY NNA NO NOON NORMAL NORTH NOT NOTATION NOTCHED",
   "NOTE NOTEHEAD NUBIAN NUKTA NUMBER NUMERAL NUN NYA OBLIQUE OCLOCK OE OF OGONEK OLD OMEGA",
   "OMICRON ON ONE OO OPEN OPERATOR OPPOSING OR ORKHON ORNAMENT OUTLINED OVER OVERBAR OVERLAY",
   "OVERLINE OXIA PA PAIRED PALATAL PARAGRAPH PARALLEL PARENTHESIS PARENTHESIZED PARTIAL PAWN PE",
   "PERISPOMENI PERSON PHA PHI PHIEUPH PI PINWHEEL PLASTICS PLUS POINT POINTED POINTING POVYSHE",
   "PRECEDES PRESENTATION PRIME PRODUCT PROSGEGRAMMENI PSI PSILI PUNCTUATION QAF QUAD QUADRANT",
   "QUADRUPLE QUARTER QUARTERS QUEEN QUESTION QUOTATION RA RAISED RECTANGLE REH RESH REST",
   "RETROFLEX REVERSE REVERSED RHO RIEUL-KIYEOK RIGHT RIGHT-FACING RIGHT-POINTING RIGHT-SHADOWED",
   "RIGHT-TO-LEFT RIGHTWARDS RING RISING ROOK ROTATED ROTATION-FLOORPLANE ROTATION-WALLPLANE ROUND",
   "ROUNDED RR RRA RTAGS SA SAD SADHE SALTIRE SAMEKH SANS-SERIF SAYISI SCHWA SCISSORS SCRIPT",
   "SECANT SECTION SEEN SEMICIRCLE SEMICOLON SEMIDIRECT SEPARATOR SEVEN SEVENTEEN SEVENTY SHA SHAD",
   "SHADE SHADOWED SHAFT SHAR2 SHE SHEEN SHELL SHESHIG SHIN SHORT SIDDHAM SIDE SIDEWAYS SIGMA SIGN",
   "SIMALUNGUN SIMILAR SINGLE SINGLE-LINE SIX SIXTEEN SIXTEENTH SIXTY SLANTED SLASH SMALL SMILING",
   "SOFT SOLIDUS SOUND SOUTH SPACE SPADES SPOKED SPREAD SQUARE SQUARED SSA STAR STATERS STOP",
   "STRAIGHT STROKE SUBGROUP SUBJOINED SUBSCRIPT SUBSET SUBSTITUTION SUBUNIT SUCCEEDS SUPERSCRIPT",
   "SUPERSET SVARITA SVETLAYA SYLLABLE SYMBOL TA TABULATION TACK TAH TAIL TAK4 TALENTS TAU TE",
   "TEARDROP-SPOKED TEDUNG TEH TELEPHONE TEN TENU THA THE THEH THESPIAN THETA THIEUTH THIRD THIRDS",
   "THIRTEEN THIRTY THOUSAND THOUSANDS THREE THROUGH THUMB TIKEUT TILDE TIMES TO TONE TONE-2",
   "TONE-3 TONE-5 TONOS TOP TORTOISE TRANSMISSION TRIANGLE TRIANGLE-HEADED TRIANGULAR TRIPLE TSA",
   "TSHA TSHEG TTA TTHA TURNED TURNSTILE TWELFTHS TWELVE TWENTY TWO TWO-HEADED UNDERBAR UNION UP",
   "UP-POINTING UPADHMANIYA UPPER UPSILON UPWARDS UU VA VARIA VARIANT VERTICAL VERTICALLY VERY",
   "VIRAMA VISARGA VOCALIC VOICED VOWEL WA WATER WAVE WAW WEST WEST-CREE WHITE WITH WORD WRINKLED",
   "WRIST Y-CREE YA YANG YEH YENISEI YODH YPOGEGRAMMENI YU YUS ZA ZAIN ZAPYATAYA ZAPYATOY ZAYIN",
   "ZERO ZETA ZHA ZIGZAG"]

end Assay.Text.CharacterName
