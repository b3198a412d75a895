import TypedClients.Text.CharSet

/-!
# Tables of character names

The names of all characters whose names follow no rule, and the further names that some of them
have. Words that occur often have a short form in small letters, and an entry of a table keeps the
beginning that its name shares with the name before.
-/
namespace TypedClients.Text

/-- The words with a short form of one letter, in the order of these forms. -/
def frequentWordText : String :=
  "LETTER WITH CAPITAL SMALL FORM ARROW SIGN RIGHT ABOVE ISOLATED RIGHTWARDS DOUBLE BELOW FINAL LEFT
    AND LEFTWARDS VERTICAL INITIAL THREE STROKE TRIANGLE-HEADED SYMBOL BLACK HORIZONTAL WHITE"

/-- The words with a short form of two letters, in the order of these forms. -/
def commonWordText : String :=
  "DOWNWARDS HUNDRED THOUSAND MIDDLE BRACKET CIRCUMFLEX WEST-CREE TRIANGLE GREATER-THAN MARK
    DIAERESIS HEAVY ARROWHEAD SQUARE CIRCLE UPWARDS REVERSED EIGHT TIMES FOUR SEVEN HOOK LESS-THAN
    YPOGEGRAMMENI FIVE PERISPOMENI INVERTED POINTING PUNCTUATION PARENTHESIS MEDIUM MEDIAL MAKSURA
    TURNED PROSGEGRAMMENI EQUAL INDEX LIGHT VOWEL TWO ORNAMENT ROTATED TILDE DIGIT ONE LOWER MEEM
    ANUSVARA DOT PLUS VOCALIC RETROFLEX ACUTE DOWN HALF RIGHT-POINTING SINGLE HARPOON DESCENDER
    ASTERISK CANDRABINDU NINE COMBINING CIRCLED DIAGONAL DEGREES OPERATOR MACRON NUMBER UPPER FACE
    THUMB DOTS DASIA OVER PSILI EXCLAMATION CENTRE ALEF LITTLE LARGE LEFT-POINTING EQUILATERAL GRAVE
    QUOTATION RING DIAMOND LIGATURE BARB HAND-FIST ANTICLOCKWISE MOVEMENT-FLOORPLANE VARIA COMMA
    CROSSING TRIPLE MOVEMENT-WALLPLANE SANS-SERIF ZERO VISARGA BLOCK MODIFIER ABBREVIATION POINTED
    SQUARED QUESTION TRIANGULAR OPEN BREVE SEVENTY JEEM LONG SEPARATOR INTERSECTION QUARTER TONE
    TWENTY VIRAMA ANGLE ALTERNATE CONSONANT ALTERNATING LATIN SHORT ACCENT SIX HIGH HITTING DOTTED
    NINETY BAR STOP HAND-CIRCLE UNDERBAR NORTH C-SIMPLIFIED CEDILLA PALATAL STRAIGHT SUPERSET CLOSED
    EQUALS HAND-HINGE CROSS DIGRAPH GLOTTAL UPSILON YENISEI CARON LINE IDEOGRAPHIC SOUTH EPSILON
    BOTTOM CORNER EAST OXIA DOWN-POINTING MULTIPLICATION CONJOINED UP-POINTING YEH STAR FINGERS
    SECTION SOLIDUS EQUIVALENT ORKHON OMEGA DOUBLE-STRUCK OVERLAY ARCHAION FRACTION INTEGRAL KNIGHT
    SUPERSCRIPT TAIL KHAH WEST HAMZA NEUTRAL SLANTED VARIANT EIGHTH GUNU FULL TORTOISE RAISED
    REVERSE SUBSET ALPHA COPTIC FIFTY LOW CHESS SCRIPT DIALYTIKA ARABIC-INDIC ARCHAIC AVAGRAHA COLON
    HAH IOTIFIED SYLLABLE CRYPTOGRAMMIC DAGESH HAND-ANGLE DANDA INSULAR OMICRON CLOCKWISE HEART
    NEGATIVE QUADRANT QUARTERS THIRTY TTHA MAHAAPRAANA TEN BETWEEN CROSSED-TAIL DASH FORWARD
    SIMALUNGUN SMILING TENU TWO-HEADED CYRILLIC DDHA DIAMONDS TEARDROP-SPOKED SEMICOLON TELEPHONE
    NOON CURLY SIGMA NGA SHA ALPAPRAANA ARABIC GREEK INSIDE MULTIPLE NUKTA PRECEDES SHADOWED
    SUCCEEDS THETA EIGHTHS OBLIQUE QUADRUPLE SHELL ROTATION-FLOORPLANE SPOKED CHA HORN NOTEHEAD TACK
    DOTLESS NYA THROUGH APOSTROPHE CHARACTERS HEARTS KHA ROTATION-WALLPLANE GAMMA INDEPENDENT
    LEFT-STEM SHAFT SPACE ALMOST ARROWS CIRCLES CROSSED FROM HAND HINGED IOTA KATAKANA
    KATAKANA-HIRAGANA LOGICAL LOZENGE MOUTH OVERBAR PERSON PRODUCT SAMEKH THA NOT BENT SHIN DELTA
    BOLD CANDRA CHARACTER COMPRESSED EIGHTY ITERATION LAMEDH LENGTH LENTICULAR OGONEK KRYZHEM
    MUSICAL POVYSHE KLYUCHEVAYA PHA SHEEN TONOS TWELFTHS VERY OLD BULLET SEEN SPADES TWELVE CURVE
    FORTY KAPPA MINUS CARRIER DIFFERENTIAL FIFTEEN MATHEMATICAL MOON SALTIRE SIDE SUBSTITUTION
    ABKHASIAN AMPERSAND CRESCENTS DIALECT-P EXTENSION INDICATOR MAHAPRANA SEVENTEEN THOUSANDS TTA
    TURNSTILE ZAPYATAYA ALEPH CONTAINING DASHED DDA EIGHTEEN ENVELOPE GHAIN NEPOSTOYANNAYA PINWHEEL
    RISING SIDEWAYS SIXTY SOUND SPREAD UNION VERTICALLY DHA GHA NUN DOUBLE-LINE ELEMENT GIMEL
    INVERSE JIHVAMULIYA NASKAPI NUMERAL QUEEN ROUNDED SINGLE-LINE SIXTEEN SLASH SVARITA UPADHMANIYA
    APPROXIMATELY ASH BISHOP DISH ELEVEN HYPHEN KASKAL LEFT-TO-RIGHT NNA OCLOCK TEDUNG Y-CREE BHA
    BACKHAND BACKSLASH CONTAINS CURL DIVISION DODEKATA ELLIPSIS EXTENDED FOURTEEN LEAF MOUNTAIN
    MOVEMENT NINETEEN NOTATION OPPOSING OVERLINE PARALLEL RECTANGLE SADHE SHADE SUBGROUP SUBSCRIPT
    SVETLAYA THIRTEEN WAVE TOP BAMBOOS BLACK-LETTER CEILING CURVED EQUIHOPPER EYES ITALIC LARGEST
    NOTCHED CLUBS EARTH LAMDA SSA ZAYIN NOTE FOR THE WAW AIRPLANE BARRED BESIDE BETA CENTRALIZATION
    DALETH FISHHOOK GROMOPOVODNAYA HEAD ICHOS INTERROBANG JAPANESE KASRA LAM LUNATE MILLIONS NORMAL
    OUTLINED PLASTICS POINT RIGHT-SHADOWED THIRD VOICED WATER WRINKLED CENTRED CHIEUCH EXTREMELY JHA
    KHIEUKH PHIEUPH SHESHIG SIXTEENTH STATERS SUBJOINED SUBUNIT THIEUTH GAN2 KING LOOP REST CHECK
    EGYPTOLOGICAL FATHA LAGAB PARENTHESIZED PRIME RIGHT-TO-LEFT ROUND RTAGS SHE WRIST AIN BETH
    BUBBLE COMMERCIAL FILLER GEMINATION HANGUL NUBIAN SAYISI SEMICIRCLE SEMIDIRECT THIRDS ANTIMONY
    ATTACHED CANCELLATION CLICK CRESCENT EYEGAZE-WALLPLANE FALLING FATHATAN GISH HAND-CUP HIRAGANA
    HYPHEN-MINUS INFINITY J-SIMPLIFIED KAPH KHOKHLOM KOMI MIDDLE-WELSH MONOGRAM MURDA
    PIEUP-SIOS-TIKEUT REH RIEUL-KIYEOK RIGHT-FACING SCISSORS SHAD SIDDHAM SIMILAR TAK4 TALENTS
    THESPIAN TSHEG ZAPYATOY END KAF TSA DRAGON FINGER HAND-HOOK HAND-OVAL HEH HETH KENTIMATA KIYEOK
    KOET LONSUM MARKER PAIRED PARAGRAPH SECANT SUBLIMATE TIKEUT TSHA VARIATION WORD YODH YUS ZAIN
    ZIGZAG APPROXIMATE BIRGA CARET DAMMA EKFONITIKON FINGER-POST FLOOR LEFT-FACING NIEUN-CIEUC
    NIEUN-HIEUH RIEUL-HIEUH RIEUL-MIEUM RIEUL-PIEUP SCHWA SHAR2 SSANGKIYEOK SSANGTIKEUT TAH
    TRESVETLAYA TWENTY-FIVE BOX FILL GAR KAPYEOUNPHIEUPH LLA NEO QUAD RHO SOFT BARLINE CONTACT
    CORNERS DIGAMMA DIVIDER HOLDING IGI IOTATED IZHITSA MEASURE PARTIAL QAF VOLAPUK ANUDATTA
    ARMENIAN ARROW-TAIL ARROWHEADS BALLOON-SPOKED BALLOT BUILDING CIEUC CIRCULAR CURRENCY DAMMATAN
    DOLLAR EXTRA-HIGH FIRST FLOURISH FOLDER GEORGIAN GESH2 HANDS HORSE IDEOGRAM IEUNG IMAGE JOINER
    KAREN KASRATAN KEYBOARD LENGTHENER LOGOGRAM MADDA MEASURED NIKOLSBURG ONCOMING ORIGINAL PENTAGON
    PHI PIEUP-SIOS POWERS RESH RIEUL-SIOS SECOND SEQUENTIAL SILHOUETTE SIMPLIFIED SIXTEENTHS SPEECH
    SSANGCIEUC SSANGPIEUP TONGUE TUAREG U-SHAPED UMBRELLA UNDER WITHIN ZETA CHE CHI AYIN BACK BALL
    FEH FLAG HAND-CURLICUE KAPYEOUNMIEUM KAPYEOUNPIEUP ONE-HUNDRED-AND-SIXTIETH PAWN PERPENDICULAR
    PRISHTHAMATRA RIEUL-PHIEUPH RIEUL-THIEUTH ROOK SAD THEH THIRTY-SECOND TRANSPOSITION YANG
    AS-SALAAM BEGIN CUATRILLO"

/-- Every word is an entry: the distance of the code point from the one before it and a colon,
unless that distance is one; how many characters the short form of the name shares with the one
before it; and its further characters, with a plus sign between words. -/
def charNameText : String :=
  "20:0kk 0cy+aj 0dg+aj 0cq+g 0xj+g 0PERCENT+g 0ms 0kb 0o+bd 0h+bd 0ch 0bx+g 0dp 0tm 0hd+fb 0gj
    0br+du 3bs 4n 3t 3at 4y 3ev 3au 4r 3cj 0hs 0ix 0aw+g 0fl+g 0ai+g 0eb+aj 0ss+AT 0es+c+a+A 7B 7C
    7D 7E 7F 7G 7H 7I 7J 7K 7L 7M 7N 7O 7P 7Q 7R 7S 7T 7U 7V 7W 7X 7Y 7Z 0o+an+ae 0hg+gj 1+an+ae
    0af+eu 0hl+ft 0df+eu 0es+d+a+A 7B 7C 7D 7E 7F 7G 7H 7I 7J 7K 7L 7M 7N 7O 7P 7Q 7R 7S 7T 7U 7V 7W
    7X 7Y 7Z 0o+ja+ae 0r+ft 0h+ja+ae 0bq 22:0NO-BREAK+kk 0ba+cy+aj 0CENT+g 0POUND+g 0xh+g 0YEN+g
    0BROKEN+fa 0gi+g 0ak 0COPYRIGHT+g 0FEMININE+ORDINAL+mw 0dd+l+eo+dg+aj 0ld+g 0wk+op 0REGISTERED+g
    0cp 0DEGREE+g 0PLUS-MINUS+g 0gt+bn 3t 0ca+eu 0MICRO+g 0PILCROW+g 0ad+bw 0fg 0gt+bs
    0MASCULINE+ORDINAL+mw 0cd+l+eo+dg+aj 0VULGAR+gq+bs+ek dcc at+ig 0ba+eb+aj 0es+c+a+A+b+df bca baf
    bbq bak bdh+i 8E 7C+b+fg 7E+b+df bca baf ck 7I+b+df bca baf ck 7ETH 7N+b+bq 7O+b+df bca baf bbq
    bak 0gc+g 0es+c+a+O+b+u 7U+b+df bca baf ck 7Y+b+ca 7THORN 3d+a+SHARP+S 7A+b+df bca baf bbq bak
    bdh+i 8E 7C+b+fg 7E+b+df bca baf ck 7I+b+df bca baf ck 7ETH 7N+b+bq 7O+b+df bca baf bbq bak
    0pb+g 0es+d+a+O+b+u 7U+b+df bca baf ck 7Y+b+ca 7THORN 7Y+b+ak 3c+a+A+b+cp 3d+a+A+b+cp
    3c+a+A+b+ee 3d+a+A+b+ee 3c+a+A+b+lq 3d+a+A+b+lq 3c+a+C+b+ca 3d+a+C+b+ca 3c+a+C+b+af 3d+a+C+b+af
    3c+a+C+b+bw+i 3d+a+C+b+bw+i 3c+a+C+b+fs 3d+a+C+b+fs 3c+a+D+b+fs 3d+a+D+b+fs 3c+a+D+b+u
    3d+a+D+b+u 3c+a+E+b+cp 3d+a+E+b+cp 3c+a+E+b+ee 3d+a+E+b+ee 3c+a+E+b+bw+i 3d+a+E+b+bw+i
    3c+a+E+b+lq 3d+a+E+b+lq 3c+a+E+b+fs 3d+a+E+b+fs 3c+a+G+b+af 3d+a+G+b+af 3c+a+G+b+ee 3d+a+G+b+ee
    3c+a+G+b+bw+i 3d+a+G+b+bw+i 3c+a+G+b+fg 3d+a+G+b+fg 3c+a+H+b+af 3d+a+H+b+af 3c+a+H+b+u
    3d+a+H+b+u 3c+a+I+b+bq 3d+a+I+b+bq 3c+a+I+b+cp 3d+a+I+b+cp 3c+a+I+b+ee 3d+a+I+b+ee 3c+a+I+b+lq
    3d+a+I+b+lq 3c+a+I+b+bw+i 3d+a+jy+I 3c+dj+IJ 3d+dj+IJ 3c+a+J+b+af 3d+a+J+b+af 3c+a+K+b+fg
    3d+a+K+b+fg 8RA 3c+a+L+b+ca 3d+a+L+b+ca 3c+a+L+b+fg 3d+a+L+b+fg 3c+a+L+b+fs 3d+a+L+b+fs
    3c+a+L+b+ad+bw 3d+a+L+b+ad+bw 3c+a+L+b+u 3d+a+L+b+u 3c+a+N+b+ca 3d+a+N+b+ca 3c+a+N+b+fg
    3d+a+N+b+fg 3c+a+N+b+fs 3d+a+N+b+fs 9PRECEDED+BY+kb 3c+a+ENG 3d+a+ENG 3c+a+O+b+cp 3d+a+O+b+cp
    3c+a+O+b+ee 3d+a+O+b+ee 3c+a+O+b+l+ca 3d+a+O+b+l+ca 3c+dj+OE 3d+dj+OE 3c+a+R+b+ca 3d+a+R+b+ca
    3c+a+R+b+fg 3d+a+R+b+fg 3c+a+R+b+fs 3d+a+R+b+fs 3c+a+S+b+ca 3d+a+S+b+ca 3c+a+S+b+af 3d+a+S+b+af
    3c+a+S+b+fg 3d+a+S+b+fg 3c+a+S+b+fs 3d+a+S+b+fs 3c+a+T+b+fg 3d+a+T+b+fg 3c+a+T+b+fs 3d+a+T+b+fs
    3c+a+T+b+u 3d+a+T+b+u 3c+a+U+b+bq 3d+a+U+b+bq 3c+a+U+b+cp 3d+a+U+b+cp 3c+a+U+b+ee 3d+a+U+b+ee
    3c+a+U+b+dh+i 3d+a+U+b+dh+i 3c+a+U+b+l+ca 3d+a+U+b+l+ca 3c+a+U+b+lq 3d+a+U+b+lq 3c+a+W+b+af
    3d+a+W+b+af 3c+a+Y+b+af 3d+a+Y+b+af 3c+a+Y+b+ak 7Z+b+ca 3d+a+Z+b+ca 3c+a+Z+b+bw+i 3d+a+Z+b+bw+i
    3c+a+Z+b+fs 3d+a+Z+b+fs 7eh+S 7B+b+u 3c+a+B+b+av bTOPBAR 3d+a+B+b+TOPBAR 3c+a+el+ev 3d+a+el+ev
    3c+a+ed+O 7C+b+av 3d+a+C+b+av 3c+a+AFRICAN+D 7D+b+av bTOPBAR 3d+a+D+b+TOPBAR 7bh+lg 3c+a+aq+E
    7vv 7ed+E 7F+b+av 3d+a+F+b+av 3c+a+G+b+av 7kg 3d+a+HV 3c+a+ks 7I+b+u 7K+b+av 3d+a+K+b+av 7L+b+fa
    8AMBDA+b+u 3c+a+bh+M 7N+b+o+av 3d+a+N+b+eh+h+LEG 3c+a+O+b+ad+bq bjv 3d+a+O+b+jv 3c+a+OI 3d+a+OI
    3c+a+P+b+av 3d+a+P+b+av 3a+YR 3c+a+el+bn 3d+a+el+bn 3c+a+ESH 3a+aq+ESH+sc 3d+a+T+b+fh+av
    3c+a+T+b+av 3d+a+T+b+av 3c+a+T+b+bz+av 7U+b+jv 3d+a+U+b+jv 3c+a+fq 7V+b+av 7Y+b+av 3d+a+Y+b+av
    3c+a+Z+b+u 3d+a+Z+b+u 3c+a+EZH a+aq 3d+a+EZH+aq bb+gu 3a+bn+b+u 3c+a+el+ay 3d+a+el+ay
    3a+ba+fp+fb+b+u 5WYNN 5DENTAL+te 5LATERAL+te 5ALVEOLAR+te 5bz+te 3c+a+DZ+b+fs 8+b+d+a+Z+b+fs
    3d+a+DZ+b+fs 3c+a+LJ 8+b+d+a+J 3d+a+LJ 3c+a+NJ 8+b+d+a+J 3d+a+NJ 3c+a+A+b+fs 3d+a+A+b+fs
    3c+a+I+b+fs 3d+a+I+b+fs 3c+a+O+b+fs 3d+a+O+b+fs 3c+a+U+b+fs 3d+a+U+b+fs 3c+a+U+b+ak+p+cp
    3d+a+U+b+ak+p+cp 3c+a+U+b+ak+p+ca 3d+a+U+b+ak+p+ca 3c+a+U+b+ak+p+fs 3d+a+U+b+ak+p+fs
    3c+a+U+b+ak+p+df 3d+a+U+b+ak+p+df 7bh+E 3c+a+A+b+ak+p+cp 3d+a+A+b+ak+p+cp 3c+a+A+b+bw+i+p+cp
    3d+a+A+b+bw+i+p+cp 3c+a+AE+b+cp 3d+a+AE+b+cp 3c+a+G+b+u 3d+a+G+b+u 3c+a+G+b+fs 3d+a+G+b+fs
    3c+a+K+b+fs 3d+a+K+b+fs 3c+a+O+b+lq 3d+a+O+b+lq 3c+a+O+b+lq+p+cp 3d+a+O+b+lq+p+cp 3c+a+EZH+b+fs
    3d+a+EZH+b+fs 7J+b+fs 3c+a+DZ 8+b+d+a+Z 3d+a+DZ 3c+a+G+b+ca 3d+a+G+b+ca 3c+a+HWAIR 7WYNN 7N+b+df
    3d+a+N+b+df 3c+a+A+b+dh+i+p+ca 3d+a+A+b+dh+i+p+ca 3c+a+AE+b+ca 3d+a+AE+b+ca 3c+a+O+b+u+p+ca
    3d+a+O+b+u+p+ca 3c+a+A+b+l+df 3d+a+A+b+l+df 3c+a+A+b+ba+ee 3d+a+A+b+ba+ee 3c+a+E+b+l+df
    3d+a+E+b+l+df 3c+a+E+b+ba+ee 3d+a+E+b+ba+ee 3c+a+I+b+l+df 3d+a+I+b+l+df 3c+a+I+b+ba+ee
    3d+a+I+b+ba+ee 3c+a+O+b+l+df 3d+a+O+b+l+df 3c+a+O+b+ba+ee 3d+a+O+b+ba+ee 3c+a+R+b+l+df
    3d+a+R+b+l+df 3c+a+R+b+ba+ee 3d+a+R+b+ba+ee 3c+a+U+b+l+df 3d+a+U+b+l+df 3c+a+U+b+ba+ee
    3d+a+U+b+ba+ee 3c+a+S+b+dp+m 3d+a+S+b+dp+m 3c+a+T+b+dp+m 3d+a+T+b+dp+m 3c+a+YOGH 3d+a+YOGH
    3c+a+H+b+fs 3d+a+H+b+fs 3c+a+N+b+eh+h+LEG 3d+a+D+b+pa 3c+a+OU 3d+a+OU 3c+a+Z+b+av 3d+a+Z+b+av
    3c+a+A+b+bw+i 3d+a+A+b+bw+i 3c+a+E+b+fg 3d+a+E+b+fg 3c+a+O+b+ak+p+cp 3d+a+O+b+ak+p+cp
    3c+a+O+b+bq+p+cp 3d+a+O+b+bq+p+cp 3c+a+O+b+bw+i 3d+a+O+b+bw+i 3c+a+O+b+bw+i+p+cp
    3d+a+O+b+bw+i+p+cp 3c+a+Y+b+cp 3d+a+Y+b+cp 7L+b+pa 7N+b+pa 7T+b+pa 7jy+J 7DB+fo 7QP+fo
    3c+a+A+b+u 7C+b+u 3d+a+C+b+u 3c+a+L+b+fa 7T+b+cm+u 3d+a+S+b+SWASH+gu 7Z+b+SWASH+gu 3c+a+fp+fb
    3d+a+fp+fb 3c+a+B+b+u 7U+fa 7bh+V 7E+b+u 3d+a+E+b+u 3c+a+J+b+u 3d+a+J+b+u 3c+a+d+Q+b+av+gu
    3d+a+Q+b+av+gu 3c+a+R+b+u 3d+a+R+b+u 3c+a+Y+b+u 3d+a+Y+b+u 7bh+A 7hi 7bh+hi 7B+b+av 7ed+O
    7C+b+pa 7D+b+gu bav 7aq+E 7vv 9+b+av 7ed+E 7aq+ed+E e+b+av 7fk+aq+ed+E 7jy+J+b+u 7G+b+av 7hn+G
    3a+d+c+G 3d+a+kg 7RAMS+jv 7bh+H 7H+b+av 8ENG+b+av 7I+b+u 7ks 3a+d+c+I 3d+a+L+b+ad+bq bBELT
    bbz+av 8EZH 7bh+M b+b+eh+LEG 7M+b+av 7N+b+o+av bbz+av 3a+d+c+N 3d+a+qq+O 3a+d+c+OE 3d+a+fk+gm
    7yh 7bh+R b+b+eh+LEG eav 7R+b+eh+LEG bgu bqv 7aq+R+b+qv 3a+d+c+R 9ba+R 3d+a+S+b+av 7ESH
    7jy+J+b+u+p+av 7SQUAT+aq+ESH 7ESH+b+pa 7bh+T 7T+b+bz+av 7U+fa 7fq 7V+b+av 7bh+V aW aY 3a+d+c+Y
    3d+a+Z+b+bz+av bpa 7EZH a+b+pa 3a+fp+fb 5PHARYNGEAL+rl+FRICATIVE 5ba+fp+fb 5STRETCHED+C
    5BILABIAL+te 5d+c+B 3d+a+fk+ed+E 3a+d+c+G+b+av 9H 3d+a+J+b+im 7bh+K 3a+d+c+L 3d+a+Q+b+av
    3a+fp+fb+b+u 5aq+fp+fb+b+u 3d+a+DZ+fo 8EZH+fo 8Z+fo+b+pa 7TS+fo 8ESH+fo 8C+fo+b+pa 7FENG+fo
    7LS+fo 8Z+fo 3a+BILABIAL+PERCUSSIVE 7DENTAL+PERCUSSIVE 3d+a+bh+H+b+qv g+p+gu 0dx+a+d+H 8+b+av 7J
    7R 7bh+R b+b+av 7c+ba+R 7W 7Y 5sj 5l+sj 5bh+dp 5kb 5aq+dp 5h+cc+dh 5o+cc+dh 5fp+fb 5aq+fp+fb
    5o+am 5h+am 5UP+am 5cb+am 5af+eu 0fs 0dx+a+r+ft 5cp 6a+eu 5df+eu 5hl+r+ft 8cp 8df+eu 8ca+eu
    5ec+hs 5cc+ec+hs 5ro+h+cc+dh 8o+cc+dh 5UP+jx 5cb+jx 5bx+g 5mi+g 0ee 0bw+i 0dh+i 0lq 0d+bq
    0l+ca+eu 0dx+a+RHOTIC+av 5fn+eu 5d+kg 7L 7S 7X 7aq+fp+fb 5xk+el+fa 5ew+el+fa 5MID+el+fa
    5hl+el+fa 5EXTRA-LOW+el+fa 5YIN+DEPARTING+el+aj 5zw+DEPARTING+el+aj 5VOICING 5UNASPIRATED 5l+kb
    5hl+cb+am 8UP+am 8o+am 8h+am 8dh 5ad+df+eu 8l+df+eu aca+eu 5hl+bq 6f+hs 5zy+ew+el 5ui+ew+el
    5zy+hl+el 5ui+hl+el 5SHELF 5ed+SHELF 5hl+o+f 0ck+df+eu 3ca+eu 3af+eu 3bq 3cp 3pm 3ee 3bw+i 3ak
    4v+i 3dh+i 3l+ca+eu 3fs 3r+ft+i 3l+r+ft+i 5df+eu 3ci 3ba+ee 4h+dp+i 3dp+i 3aq+dp+i 3dp+i+h
    4f+eu+m 3ca+eu+m 3o+jx+m 3h+jx+m 3o+eo+i 3jv 3o+cc+dh+m 3UP+jx+m 3cb+jx+m 3bx+g+m 3mi+g+m
    3PALATALIZED+av+m 3bz+av+m 4w+m 3ak+m 3dh+m 4p+m 3fg 3lq 3r+ft+m 3BRIDGE+m 3ba+l+ARCH+m 3fs+m
    3af+eu+m 3ee+m 3ba+ee+m 4q+m 3cp+m 3hl+ft 3l+hl+ft 3bq+go 3et+u+go 4h+u+go 4t+gj+go 4h+gj+go
    3h+cc+dh+m 3ba+BRIDGE+m 3an+m 3SEAGULL+m 3X+i 3r+bq 3l+pm 3df+el+aj 3ca+el+aj 3jg+az 6KORONIS
    6ho+lx 6ax 3BRIDGE+i 3fl+g+m 3l+r+ft+m 3o+eo+m 3ld+bq+i 3HOMOTHETIC+i 3kl+bj+TO+i 3o+h+f+m
    3ap+f+m 3GRAPHEME+xv 3h+am+i 3o+cc+dh+i 3FERMATA 3X+m 3o+am+m 3h+am+m 8p+UP+am+m 5cc+dh+i
    3bw+i+h 3ch+m 3l+dh+m 3vh+i 3l+ee+m 7 5cp 7+m 5bq 6a+ee 5k+f+m 3es+d+a+A aE aI aO aU aC aD aH aM
    aR aT aV aX 0jg+c+a+HETA 3d+a+HETA 3c+a+hq+SAMPI 3d+a+hq+SAMPI 3oc+g 3bt+oc+g 3c+a+PAMPHYLIAN+wo
    3d+a+PAMPHYLIAN+wo 3:3ax 3d+aq+rd+jb+w 5ey+rd+jb+w 5aq+ey+rd+jb+w 3eb+aj 3c+a+YOT 5:3lx 3ho+lx
    3c+a+hi+b+lx 3ANO+TELEIA 3c+a+fw+b+lx 7ETA+b+lx 7ks+b+lx 2:7ib+b+lx 2:7fq+b+lx 7gm+b+lx
    3d+a+ks+b+ho+p+lx 3c+a+hi 7qs 7kg 7lg 7fw 7za 7ETA 7jn 7ks 7mh 7qi 7MU 7NU 7XI 7ib 7PI 7wj 2:7jb
    7TAU 7fq 7yh 7zc 7PSI 7gm 7ks+b+ho 7fq+b+ho 3d+a+hi+b+lx 7fw+b+lx 7ETA+b+lx 7ks+b+lx
    7fq+b+ho+p+lx 7hi 7qs 7kg 7lg 7fw 7za 7ETA 7jn 7ks 7mh 7qi 7MU 7NU 7XI 7ib 7PI 7wj 7n+jb 7jb
    7TAU 7fq 7yh 7zc 7PSI 7gm 7ks+b+ho 7fq+b+ho 7ib+b+lx 7fq+b+lx 7gm+b+lx 3c+KAI+w 3qs+w 3jn+w
    3fq+b+av+w 8ca+p+av+w 8ak+p+av+w 3yh+w 3PI+w 3KAI+w 3a+hq+KOPPA 3d+a+hq+KOPPA 3a+STIGMA
    3d+a+STIGMA 3a+wo 3d+a+wo 3a+KOPPA 3d+a+KOPPA 3a+SAMPI 3d+a+SAMPI 0hj+c+a+SHEI 3d+a+SHEI
    3c+a+FEI 3d+a+FEI 3c+a+KHEI 3d+a+KHEI 3c+a+HORI 3d+a+HORI 3c+a+GANGIA 3d+a+GANGIA 3c+a+SHIMA
    3d+a+SHIMA 3c+a+DEI 3d+a+DEI 0jg+mh+w 3wj+w 3rd+jb+w 3a+YOT 3c+jn+w 3rd+fw+w 3aq+rd+fw+w
    3c+a+SHO 3d+a+SHO 3c+rd+jb+w 5a+SAN 3d+a+SAN 3wj+b+u+w 3c+aq+rd+jb+w 5ey+rd+jb+w 5aq+ey+rd+jb+w
    0it+c+a+IE+b+df 8O 7DJE 7GJE 7UKRAINIAN+IE 7DZE 7BYELORUSSIAN-UKRAINIAN+I 7YI 7JE 7LJE 7NJE
    7TSHE 7KJE 7I+b+df 7et+U 7DZHE 7A 7BE 7VE 7GHE 7DE 7IE 7ZHE 8E 7I 7et+I 7KA 7EL 8M 8N 7O 7PE 7ER
    8S 7TE 7U 7EF 7HA 7TSE 7zb 7jd 7SHCHA 7HARD+g 7YERU 7wk+g 7E 7YU 8A 3d+a+A 7BE 7VE 7GHE 7DE 7IE
    7ZHE 8E 7I 7et+I 7KA 7EL 8M 8N 7O 7PE 7ER 8S 7TE 7U 7EF 7HA 7TSE 7zb 7jd 7SHCHA 7HARD+g 7YERU
    7wk+g 7E 7YU 8A 7IE+b+df 8O 7DJE 7GJE 7UKRAINIAN+IE 7DZE 7BYELORUSSIAN-UKRAINIAN+I 7YI 7JE 7LJE
    7NJE 7TSHE 7KJE 7I+b+df 7et+U 7DZHE 3c+a+gm 3d+a+gm 3c+a+YAT 3d+a+YAT 3c+a+hu+E 3d+a+hu+E
    3c+a+db+vf 3d+a+db+vf 3c+a+hu+db+vf 3d+a+hu+db+vf 3c+a+BIG+vf 3d+a+BIG+vf 3c+a+hu+BIG+vf
    3d+a+hu+BIG+vf 3c+a+KSI 3d+a+KSI 3c+a+PSI 3d+a+PSI 3c+a+FITA 3d+a+FITA 3c+a+wt 3d+a+wt
    3c+a+wt+b+l+df+eu 3d+a+wt+b+l+df+eu 3c+a+UK 3d+a+UK 3c+a+sl+gm 3d+a+sl+gm 3c+a+gm+b+TITLO
    3d+a+gm+b+TITLO 3c+a+OT 3d+a+OT 3c+a+KOPPA 3d+a+KOPPA 3mz+g 0ck+it+TITLO 6PALATALIZATION
    6cv+PNEUMATA 7x+PNEUMATA 6POKRYTIE 6ab+mz+g 6re+g 0it+c+a+et+I+b+gu 3d+a+et+I+b+gu
    3c+a+SEMISOFT+g 3d+a+SEMISOFT+g 3c+a+ER+b+TICK 3d+a+ER+b+TICK 3c+a+GHE+b+UPTURN
    3d+a+GHE+b+UPTURN 3c+a+GHE+b+u 3d+a+GHE+b+u 3c+a+GHE+b+ad+av 3d+a+GHE+b+ad+av 3c+a+ZHE+b+cg
    3d+a+ZHE+b+cg 3c+a+ZE+b+cg 3d+a+ZE+b+cg 3c+a+KA+b+cg 3d+a+KA+b+cg 3c+a+KA+b+r+u 3d+a+KA+b+r+u
    3c+a+KA+b+u 3d+a+KA+b+u 3c+a+BASHKIR+KA 3d+a+BASHKIR+KA 3c+a+EN+b+cg 3d+a+EN+b+cg 3c+dj+EN+GHE
    3d+dj+EN+GHE 3c+a+PE+b+ad+av 3d+a+PE+b+ad+av 3c+a+mr+HA 3d+a+mr+HA 3c+a+ES+b+cg 3d+a+ES+b+cg
    3c+a+TE+b+cg 3d+a+TE+b+cg 3c+a+fi+U 3d+a+fi+U 3c+a+fi+U+b+u 3d+a+fi+U+b+u 3c+a+HA+b+cg
    3d+a+HA+b+cg 3c+dj+TE+TSE 3d+dj+TE+TSE 3c+a+zb+b+cg 3d+a+zb+b+cg 3c+a+zb+b+r+u 3d+a+zb+b+r+u
    3c+a+SHHA 3d+a+SHHA 3c+a+mr+zb 3d+a+mr+zb 3c+a+mr+zb+b+cg 3d+a+mr+zb+b+cg 3a+PALOCHKA
    3c+a+ZHE+b+ee 3d+a+ZHE+b+ee 3c+a+KA+b+av 3d+a+KA+b+av 3c+a+EL+b+gu 3d+a+EL+b+gu 3c+a+EN+b+av
    3d+a+EN+b+av 3c+a+EN+b+gu 3d+a+EN+b+gu 3c+a+KHAKASSIAN+zb 3d+a+KHAKASSIAN+zb 3c+a+EM+b+gu
    3d+a+EM+b+gu 7PALOCHKA 3c+a+A+b+ee 3d+a+A+b+ee 3c+a+A+b+ak 3d+a+A+b+ak 3c+dj+A+IE 3d+dj+A+IE
    3c+a+IE+b+ee 3d+a+IE+b+ee 3c+a+vv 3d+a+vv 3c+a+vv+b+ak 3d+a+vv+b+ak 3c+a+ZHE+b+ak 3d+a+ZHE+b+ak
    3c+a+ZE+b+ak 3d+a+ZE+b+ak 3c+a+mr+DZE 3d+a+mr+DZE 3c+a+I+b+cp 3d+a+I+b+cp 3c+a+I+b+ak
    3d+a+I+b+ak 3c+a+O+b+ak 3d+a+O+b+ak 3c+a+qq+O 3d+a+qq+O 3c+a+qq+O+b+ak 3d+a+qq+O+b+ak
    3c+a+E+b+ak 3d+a+E+b+ak 3c+a+U+b+cp 3d+a+U+b+cp 3c+a+U+b+ak 3d+a+U+b+ak 3c+a+U+b+l+ca
    3d+a+U+b+l+ca 3c+a+zb+b+ak 3d+a+zb+b+ak 3c+a+GHE+b+cg 3d+a+GHE+b+cg 3c+a+YERU+b+ak
    3d+a+YERU+b+ak 3c+a+GHE+b+u+p+av 3d+a+GHE+b+u+p+av 3c+a+HA+b+av 3d+a+HA+b+av 3c+a+HA+b+u
    3d+a+HA+b+u 3c+a+tr+DE 3d+a+tr+DE 3c+a+tr+DJE 3d+a+tr+DJE 3c+a+tr+ZJE 3d+a+tr+ZJE 3c+a+tr+DZJE
    3d+a+tr+DZJE 3c+a+tr+LJE 3d+a+tr+LJE 3c+a+tr+NJE 3d+a+tr+NJE 3c+a+tr+SJE 3d+a+tr+SJE 3c+a+tr+TJE
    3d+a+tr+TJE 3c+a+aq+ZE 3d+a+aq+ZE 3c+a+EL+b+av 3d+a+EL+b+av 3c+a+LHA 3d+a+LHA 3c+a+RHA 3d+a+RHA
    3c+a+YAE 3d+a+YAE 3c+a+QA 3d+a+QA 3c+a+WE 3d+a+WE 3c+a+ALEUT+KA 3d+a+ALEUT+KA 3c+a+EL+b+ad+av
    3d+a+EL+b+ad+av 3c+a+EN+b+ad+av 3d+a+EN+b+ad+av 3c+a+PE+b+cg 3d+a+PE+b+cg 3c+a+SHHA+b+cg
    3d+a+SHHA+b+cg 3c+a+EN+b+o+av 3d+a+EN+b+o+av 3c+a+DZZHE 3d+a+DZZHE 3c+a+DCHE 3d+a+DCHE
    3c+a+EL+b+cg 3d+a+EL+b+cg 2:0wz+c+a+AYB 7BEN 7GIM 7DA 7ECH 7ZA 7EH 8T 7TO 7ZHE 7INI 7LIWN 7XEH
    7CA 7KEN 7HO 7JA 7GHAD 7CHEH 7MEN 7YI 7NOW 7jd 7VO 7ju 7PEH 7JHEH 7RA 7SEH 7VEW 7TIWN 7tw 7CO
    7YIWN 7PIWR 7KEH 7OH 7zg 3:3dx+a+o+cc+dh 3kb 3EMPHASIS+aj 3cy+aj 3dp 3eb+aj 3dy+aj 4+a+bh+AYB
    7AYB 7BEN 7GIM 7DA 7ECH 7ZA 7EH 8T 7TO 7ZHE 7INI 7LIWN 7XEH 7CA 7KEN 7HO 7JA 7GHAD 7CHEH 7MEN
    7YI 7NOW 7jd 7VO 7ju 7PEH 7JHEH 7RA 7SEH 7VEW 7TIWN 7tw 7CO 7YIWN 7PIWR 7KEH 7OH 7zg
    5dj+ECH+YIWN 5a+YI+b+u 3hd+fb 3op 3:0ty+wz+ETERNITY+g 0vp+wz+ETERNITY+g 0wz+DRAM+g
    2:0HEBREW+eu+ETNAHTA aSEGOL bHALSHELET aZAQEF+QATAN gGADOL aTIPEHA aREVIA aZARQA aPASHTA aYETIV
    aTEVIR aGERESH g+MUQDAM dSHAYIM aQARNEY+PARA aTELISHA+GEDOLA aPAZER aATNAH+HAFUKH aMUNAH
    bAHAPAKH bERKHA g+KEFULA aDARGA aQADMA aTELISHA+QETANA aYERAH+BEN+YOMO aOLE aILUY aDEHI aZINOR
    7aj+MASORA+ao 7ri+SHEVA aHATAF+SEGOL gPATAH gQAMATS bIRIQ aTSERE aSEGOL aPATAH aQAMATS aHOLAM
    f+HASER+qm+VAV aQUBUTS ahx+OR+MAPIQ aMETEG 7bc+MAQAF 7ri+RAFE 7bc+PASEQ 7ri+lf+bw aSIN+bw
    7bc+SOF+PASUQ 7aj+cr+bw abt+bw 7bc+nv+HAFUKHA 7ri+QAMATS+QATAN 9:7a+da 9BET 9ny 9DALET 9HE 9VAV
    9qk 9HET 9TET 9YOD 9n+uj 9uj 9LAMED 9n+MEM 9MEM 9n+nv av 9lb 9zd 9n+PE 9PE 9n+TSADI 9TSADI 9QOF
    9yk 9lf 9TAV 5:7YOD+ah 7dj+YIDDISH+l+VAV iVAV+YOD il+YOD 7bc+GERESH dSHAYIM c:0jf+cq+g 3g+SANAH
    3FOOTNOTE+uv 3g+SAFHA 7MVAT 3cq+aj+i 0hp+CUBE+ROOT 3FOURTH+ROOT 0jf+RAY 0hp+PER+MILLE+g 7ik+ac+g
    0AFGHANI+g 0jf+dp 3DATE+ei 3POETIC+VERSE+g 3g+MISRA 5SALLALLAHOU+ALAYHE+WASSALLAM
    5ALAYHE+ASSALLAM 5RAHMATULLAH+ALAYHE 7DI+ALLAHOU+ANHU 5TAKHALLUS 3d+ew+vz 8dj+da+b+rc+b+gf 8vg
    5sg 5vl 5rb 3ix 3a+aj 3ui+OF+TEXT+aj 3dr+bw+bc+aj 3eb+aj 3a+KASHMIRI+gf 5gx 5da+b+yb+i agx+i
    5qo+b+gx+i 5da+b+gx+m 5gf+b+gx+i 5da 5BEH 5TEH+MARBUTA 8 5zt 5eg 5ht 5gv 5DAL 5THAL 5tw 5vg 5mc
    5lw 5zs 5DAD 5vz 5ZAH 5sp 5nj 5KEHEH+b+bn+cu+i dt+cu+m 5FARSI+gf+b+ba+V hn+cu+i gt+cu+i 3TATWEEL
    3a+zg 5ww 5uj 5rc 5bu 5iz 5up 5qo 5da+bg 5gf 3ti 3xi 4x 3sg 3vl 3rb 3SHADDA 4UKUN 3MADDAH+i
    3gx+i 6m 3ps+da 3ba+vl 3aj+iz+GHUNNA 3ZWARAKAY 3bm+g+d+V+i 8ba+d+V+i 9w+m 3aq+vl 3sg+b+bn+cu
    3WAVY+gx+m 0hp+br+du 6bs 7n 6t 6at 7y 6ev 6au 7r 6cj 0jf+PERCENT+g 3DECIMAL+ei 3mz+ei 3ay+dz+gg
    4+jy+BEH 8ww 5gt+da 5da+WASLA 8b+WAVY+gx+i im 5ew+gx a+da bqo 5U+b+gx+i 5ew+gx+gf 5TTEH 9EH
    5BEEH 5TEH+b+dh bt+cu+i+aa 5PEH 5TEHEH 5BEHEH 5ht+b+gx+i abn+cu+r+i 5NYEH 5DYEH 5ht+b+t+cu+i
    5TCHEH aEH 5DDAL 6AL+b+dh bbw+m f+p+d+vz 7HAL 6DAHAL 6UL 6AL+b+t+cu+i+aa bat+cu+i 5RREH
    5tw+b+d+V bh abw+m ad+V+m abw+m+p+bw+i bn+cu+i 5JEH 5tw+b+at+cu+i 5mc+b+bw+m+p+bw+i at+cu+m
    g+p+t+cu+i 5zs+b+bn+cu+m at+cu+i 5vz+b+t+cu+i 5sp+b+t+cu+i 5jy+zg 5zg+b+bw+MOVED+m dm 5VEH
    5zg+b+t+cu+m 5PEHEH 5ww+b+bw+i at+cu+i 5KEHEH 5SWASH+uj 5uj+b+dh abw+i 5NG 5uj+b+t+cu+m 5GAF
    8+b+dh 5NGOEH 5GAF+b+bn+cu+m 6UEH 6AF+b+t+cu+i 5rc+b+d+V abw+i at+cu+i fm 5iz+b+bw+m 8GHUNNA
    5RNOON 5iz+b+dh at+cu+i 5up+DOACHASHMEE 5TCHEH+b+bw+i 5up+b+gf+i 8GOAL c+b+gx+i
    5TEH+MARBUTA+GOAL 5qo+b+dh 5KIRGHIZ+OE 5OE 5U 5YU 5KIRGHIZ+YU 5qo+b+bn+cu+i 5VE 5FARSI+gf
    5gf+b+gu ad+V 5qo+b+bw+i 5E 5gf+b+t+cu+m 8BARREE e+b+gx+i 3hd+fb 3a+AE 3d+ew+dj+zs+b+rc+b+da+bg
    bww+b+rc+b+da+bg 8bu+s+e 8rc+da 8eg 8t+cu 8mc 3ui+OF+AYAH 3START+OF+RUB+EL+HIZB 3d+ew+oe+du
    8UPRIGHT+RECTANGULAR+du 8jy+qx+OF+gv 8bu+j+e 5hl+mc 5ew+yb 5qo 5gf 5ew+gf 8iz 3PLACE+OF+SAJDAH
    3EMPTY+cz+hl+fb cew+fb 3oe+ew+fb+b+FILLED+cz 3d+hl+bu 3a+DAL+b+ba+V 5tw+b+ba+V 0pe+hp+br+du 9bs
    an 9t 9at ay 9ev 9au ar 9cj 0jf+a+lw+b+bw+m 5DAD+b+bw+m 5nj+b+bw+m 3g+SINDHI+ms
    cPOSTPOSITION+MEN 3a+up+b+ba+V 0SYRIAC+ui+OF+ux 7SUPRALINEAR+hd+fb 9BLINEAR+hd+fb 9PRALINEAR+hs
    9BLINEAR+hs 7y+hs 7hs+SKEWED+o hh 7SUPRALINEAR+hs+SKEWED+o 9BLINEAR+hs+SKEWED+h 7CONTRACTION
    7HARKLEAN+OBELUS gMETOBELUS gASTERISCUS 2:7dy+aj 7a+ALAPH 9gt+ALAPH 9sq 9GAMAL e+GARSHUNI
    9DALATH 9jy+DALATH+RISH 9HE 9qo 9vg 9uq 9TETH d+GARSHUNI 9YUDH d+HE 9tp 9LAMADH 9MIM 9nv
    9SEMKATH 9n+SEMKATH 9E 9PE 9aq+PE 9pp 9QAPH 9RISH 9lf 9TAW 9PERSIAN+BHETH hGHAMAL hDHALATH
    7PTHAHA+i em eey 7ZQAPHA+i em eey 7RBASA+i dm 7ey+ZLAMA+y gANGULAR 7HBASA+i dm c-ESASA+ey
    7ESASA+i dm 7RWAHA 7FEMININE+bw 7QUSHSHAYA 7RUKKAKHA 7bn+r+cu+i fm 7t+cu+i cm 7jp+ft+i dm 7MUSIC
    7BARREKH 3:7a+SOGDIAN+ZHAIN hKHAPH hFE 0jf+a+BEH+b+t+cu+HORIZONTALLY+m bbw+m+p+t+cu+i
    bt+cu+bb+ap+m n+p+bn+cu+i bbn+cu+m+p+bw+i ca+d+V+m bd+V 5ht+b+bn+cu+i at+cu+bb+ap+m
    5DAL+b+bn+cu+ns+m+p+d+vz ca+d+V+m 5tw+b+u 5mc+b+at+cu+i 5sp+b+bn+cu+i at+cu+bb+aa+i abn+cu+ns+i
    5zg+b+bn+cu+m at+cu+bb+ap+m 5KEHEH+b+bw+i dt+cu+i ibb+ap+m 5bu+b+bw+i dm 5iz+b+bn+cu+m ad+vz cV
    5rc+b+fa 5tw+b+bn+cu+ns+i agx+i 5mc+b+bn+cu+ns+i 5ht+b+d+jf+a+vz+m kp+bn+cu
    5mc+b+d+jf+a+vz+p+bn+cu 5tw+b+d+jf+a+vz+p+bn+cu 5ht+b+d+jf+a+vz+i 5da+b+pe+hp+br+bn+i jt+i
    5FARSI+gf+b+pe+hp+br+bn+i pt+i pat+m 5qo+b+pe+hp+br+bn+i jt+i 5gf+BARREE+b+pe+hp+br+bn+i qt+i
    5ht+b+pe+hp+br+at+m 5mc+b+pe+hp+br+at+i aba+V 5uj+b+bn+cu+i 0THAANA+a+HAA 9SHAVIYANI 9NOONU 9RAA
    9BAA 9LHAVIYANI 9KAAFU 9ALIFU 9VAAVU 9MEEMU 9FAAFU 9DHAALU 9THAA 9LAAMU 9GAAFU aNAVIYANI 9SEENU
    9DAVIYANI 9ZAVIYANI 9TAVIYANI 9YAA 9PAVIYANI 9JAVIYANI 9CHAVIYANI 9TTAA 9HHAA 9KHAA 9THAALU 9ZAA
    9SHEENU aAADHU 9DAADHU 9TO 9ZO 9AINU 9GHAINU 9QAAFU 9WAAVU 7ABAFILI 8ABAAFILI 7IBIFILI
    7EEBEEFILI 7UBUFILI 7OOBOOFILI 7EBEFILI 8YBEYFILI 7OBOFILI 8ABOAFILI 7SUKUN 7a+NAA f:0NKO+br+du
    7bs 8n 7t 7at 8y 7ev 7au 8r 7cj 4a+A 6EE 6I 6E 6U 6OO 7 6DAGBASINNA 6N 6BA 6PA 6TA 6JA 6ju 6DA
    6RA 7RA 6SA 6GBA 6FA 6KA 6LA 6NA+WOLOSO 6MA 6jz 6NA 6HA 6WA 6YA 6jz+WOLOSO 6JONA+JA bju bRA
    4ck+et+ew+el ahl+el anm+el 8h+DESCENDING+el aew+el ahl+el anm+el 7NASALIZATION+aj 7l+bw+i
    4ew+el+kb 4hl+el+kb 4w+OO+DENNEN 6GBAKURUNEN 4dp 4cy+aj 4LAJANYALAN 3:4DANTAYALAN 5OROME+g
    4TAMAN+g 0SAMARITAN+a+ALAF cBIT cGAMAN cDALAT cIY cBAA cZEN cIT cTIT cYUT cKAAF cLABAT cMIM cnv
    cSINGAAT cIN cFI cTSAADIY cQUF cRISH cSHAN cTAAF bj+IN f-ALAF dOCCLUSION dhx
    adx+a+EPENTHETIC+YUT aaj+EPENTHETIC+YUT abm+g+eh+E fE fOVERLONG+AA feh+AA fAA fOVERLONG+A feh+A
    fA adx+a+et+A abm+g+et+A gh+U fU adx+a+I abm+g+eh+I fI fO fSUKUN aaj+NEQUDAA 3:abc+NEQUDAA
    dAFSAAQ eNGED dBAU dATMAAU dSHIYYAALAA ady+aj abc+MELODIC+QITSA dZIQAA dQITSA dZAEF dTURU
    dARKAANU dSOF+MASHFAAT dANNAAU 2:0MANDAIC+a+HALQA aAB bG bD bH aUSHENNA aAZ aIT aATT bKSA c bL
    bM bN bS aIN aAP bSZ bQ bR aol aAT aDUSHENNA aKAD asp 8AFFRICATION+aj 8VOCALIZATION+aj 8su+aj
    3:8bc 2:0SYRIAC+a+MALAYALAM+jc jJA jjz jna jos jNNNA jow jRA jwg jLLLA jqj 6:0jf+a+da+b+tc+sg
    dpw+h+sg ah+ad+u ao+ad+u atc+rb dfx+h+rb dsl+bw+i dh+sl+bw do+sl+bw dsl+bw+m abw+i
    atc+pw+h+sg+p+bw+i ah+ad+u+p+bw+i atc+fx+h+rb+p+bw+i dpw+h+sg+p+o+dh ah+ad+u+p+o+dh
    atc+fx+h+rb+p+o+dh dh+gx do+gx 3TATWEEL+b+OVERSTRUCK+gx oqo dbn+cu+m 3a+THIN+gf 3BASELINE+sl+bw
    3hf+sl+bw 3a+iz+b+ba+d+V 5ht+b+ba+d+V+m 5vz+b+bw+m at+cu+m 5KEHEH+b+bn+cu+ns+m 3r+gu
    2:3POUND+aj+i 4IASTRE+aj+i 7:3d+ew+vd+AL-JUZ 5hl+vd+ISHMAAM cMAALA bTASHEEL 3yb+WAAJIB
    3gt+da+MOKHASSAS 3DOUBLED+yb 3cc+yb+cw+yb 3a+BEH+b+d+V+m bgx+i 5eg+b+bn+cu+i 5vz+b+bn+cu+i
    5zg+b+bw+m+p+t+cu+i 5ww+b+bw+m 5rc+b+l+fa 5bu+b+t+cu+i 5gf+b+bn+cu+m+p+gx+i kbw+i 5tw+b+sc
    5qo+b+bw+yz 5ROHINGYA+gf 5hl+da 5DAL+b+t+cu+m 5zs+b+t+cu+m 5GAF+b+ba+u 5fi+qo 5vg+b+ba+V+i
    5sp+b+t+cu+m 5uj+b+bw+m 5ww+b+bw+m+p+NO+cu+i 5BEH+b+d+bu+i 5PEH+b+d+bu+i 5TEH+b+d+TEH+i
    5tw+b+d+iz+i 5gf+b+bn+cu+m+p+d+iz+i 5AFRICAN+zg dww diz 5PEH+b+d+V 5TEH+b+d+V 6TEH+b+d+V
    6CHEH+b+d+V 5KEHEH+b+d+V 5nj+b+t+cu+i 5AFRICAN+ww+b+t+cu+i 5eg+b+t+cu+i fm 5rc+b+d+jf+a+vz+i
    5GRAF 3d+FARSI+gf 5ew+FARSI+gf 8gf+BARREE+b+bn+cu+m 8vd+SAH 8ZAH 4c+sl+bw+i cm 3SUKUN+m 3dc+ao+m
    6sl+bw+jh+ao+m 4+hl+qo 5ew+vd+AR-RUB 8zs 8sp 8ww 8iz+b+rb 5hl+iz+b+rb 5ew+vd+ATH-THALATHA
    cS-SAJDA cN-NISF bSAKTA bQIF bWAQFA 8FOOTNOTE+uv 8g+SAFHA 3DISPUTED+ui+OF+AYAH 3bh+vl+m 3ja+sg
    6vl 6rb 6ti 6xi 7x 3el+bs+bw+i 7n+cu+i 6sc+i 6bs+bw+m 7n+cu+m 6sc+m 4d+ti 6xi 7x 3d+ew+qo
    3sg+b+dh 8bw+i 3rb+b+bw+m 3o+am+i 3h+am+i 3o+am+m 3h+am+m 3l+h+am+i b+b+bw 3h+am+i+b+bw 3vl+b+bw
    3aj+nn+iz+GHUNNA 0DEVANAGARI+g+ba+ci dci dbv ddv ba+et+A dA eA dI eI dU eU dby+R gL dli+E det+E
    dE dAI dli+O det+O dO dAU dKA dke dGA dnu djc dCA dju dJA drr djz dna dii dng diu dos dTA dlc
    dDA dnt dNA eNNA dPA dlv dBA dow dMA dYA dRA eRA dLA dwg dLLLA dVA djd dqj dSA dHA bbm+g+OE hOE
    bg+jj dhr bbm+g+AA gI hI gU hU gby+R kR gli+E get+E gE gAI gli+O get+O gO gAU bg+en bbm+g+zo+E
    gAW bOM bSTRESS+g+UDATTA kwy bdf+eu bca+eu bbm+g+li+eh+E gUE hUE ba+QA dKHHA dGHHA dZA dDDDHA
    dRHA dFA dYYA dby+RR gLL bbm+g+by+L kL bhz bl+hz bbr+du ebs fn et eat fy eev eau fr ecj bdy+g
    bg+ew+SPACING+bw ba+li+A dOE eOE dAW dUE eUE dMARWARI+ng dZHA dal+YA dGGA dJJA dfp+fb dDDDA dBBA
    0BENGALI+ANJI 8g+ci abv adv 2:8a+A bA aI bI aU bU aby+R dL 3:aE aAI 3:aO aAU aKA ake aGA anu ajc
    aCA aju aJA arr ajz ana aii ang aiu aos aTA alc aDA ant aNA 2:aPA alv aBA aow aMA aYA aRA 2:aLA
    4:ajd aqj aSA aHA 3:8g+jj ahr 8bm+g+AA dI eI dU eU dby+R hR 3:dE dAI 3:dO dAU 8g+en 8a+KHANDA+TA
    9:8AU+lo+aj 5:8a+RRA bHA 2:aYYA aby+RR dLL 8bm+g+by+L hL 3:9r+du bbs cn bt bat cy bev bau cr bcj
    8a+RA+b+ad+cm fbt+cm 8RUPEE+aj eg 8xh+NUMERATOR+bs mn lt lat lbs+LESS+THAN+qn+DENOMINATOR
    bDENOMINATOR+og 8ISSHAR 8GANDA+aj 8a+VEDIC+bv 8dy+g 8SANDHI+aj 3:0GURMUKHI+g+ADAK+BINDI bBINDI
    bdv 2:9a+A cA bI cI bU cU 5:bEE bAI 3:bOO bAU bKA bke bGA bnu bjc bCA bju bJA brr bjz bna bii
    bng biu bos bTA blc bDA bnt bNA 2:bPA blv bBA bow bMA bYA bRA 2:bLA bwg 2:bVA bjd 2:bSA bHA
    3:9g+jj 2:9bm+g+AA eI fI eU fU 5:eEE eAI 3:eOO eAU 9g+en 4:bUDAAT 8:9a+KHHA bGHHA bZA bRRA 2:bFA
    8:9br+du cbs dn ct cat dy cev cau dr ccj 9TIPPI 9ADDAK 9IRI 9URA 9EK+ONKAR 9g+YAKASH 9dy+g
    b:2JARATI+g+ci bbv bdv 2:9a+A cA bI cI bU cU bby+R eL 9bm+li+E 2:9a+E bAI 9bm+li+O 2:9a+O bAU
    bKA bke bGA bnu bjc bCA bju bJA brr bjz bna bii bng biu bos bTA blc bDA bnt bNA 2:bPA blv bBA
    bow bMA bYA bRA 2:bLA bwg 2:bVA bjd bqj bSA bHA 3:9g+jj bhr 9bm+g+AA eI fI eU fU eby+R iR eli+E
    2:eE eAI eli+O 2:eO eAU 9g+en 3:9OM 10:9a+by+RR eLL 9bm+g+by+L iL 3:ar+du cbs dn ct cat dy cev
    cau dr ccj 9dy+g 9RUPEE+g 8:9a+ZHA 9g+SUKUN cHADDA bMADDAH bTHREE-DOT+jj+i bao+jj+i
    bTWO-CIRCLE+jj+i 2:0ORIYA+g+ci 8bv 8dv 2:6a+A 9A 8I 9I 8U 9U 8by+R bL 3:8E 8AI 3:8O 8AU 8KA 8ke
    8GA 8nu 8jc 8CA 8ju 8JA 8rr 8jz 8na 8ii 8ng 8iu 8os 8TA 8lc 8DA 8nt 8NA 2:8PA 8lv 8BA 8ow 8MA
    8YA 8RA 2:8LA 8wg 2:8VA 8jd 8qj 8SA 8HA 3:6g+jj 8hr 6bm+g+AA bI cI bU cU bby+R fR 3:bE bAI 3:bO
    bAU 6g+en 8:8pm 6AI+lo+aj 7U+lo+aj 5:6a+RRA 9HA 2:8YYA 8by+RR bLL 6bm+g+by+L fL 3:7r+du 9bs an
    9t 9at ay 9ev 9au ar 9cj 6ISSHAR 6a+WA 6gq+bs+ek ccc 9t+ig 9bs+rv chb 9t+yq b:0TAMIL+g+bv 8dv
    2:6a+A 9A 8I 9I 8U 9U 4:8E 9E 8AI 2:8O 9O 8AU 8KA 4:8jc 8CA 2:8JA 2:8jz 8na 4:8os 8TA 4:8NA 9NNA
    8PA 4:8MA 8YA 8RA 9RA 8LA 8wg 8LLLA 8VA 8jd 8qj 8SA 8HA 5:6bm+g+AA bI cI bU cU 4:bE cE bAI 2:bO
    cO bAU 6g+en 3:6OM 7:6AU+lo+aj f:6br+du 9bs an 9t 9at ay 9ev 9au ar 9cj 6cq+ik 9bs+ab dc 6DAY+g
    6MONTH+g 6YEAR+g 6DEBIT+g 6CREDIT+g 6AS+i+g 6RUPEE+g 6cq+g 6:1ELUGU+g+ck+ci+i ai 9bv 9dv
    9ck+bv+i 7a+A aA 9I aI 9U aU 9by+R cL 2:9E aE 9AI 2:9O aO 9AU 9KA 9ke 9GA 9nu 9jc 9CA 9ju 9JA
    9rr 9jz 9na 9ii 9ng 9iu 9os 9TA 9lc 9DA 9nt 9NA 2:9PA 9lv 9BA 9ow 9MA 9YA 9RA aRA 9LA 9wg 9LLLA
    9VA 9jd 9qj 9SA 9HA 3:7g+jj 9hr 7bm+g+AA cI dI cU dU cby+R gR 2:cE dE cAI 2:cO dO cAU 7g+en
    8:7lo+aj 7AI+lo+aj 2:7a+uk 9DZA 9RRRA 3:9NAKAARA+POLLU 3:9by+RR cLL 7bm+g+by+L gL 3:8r+du abs bn
    at aat by aev aau br acj 8:7g+ub 8q+br+du+qm+ODD+yj+OF+at dbs+qm+ODD+yj+OF+at en+qm+ODD+yj+OF+at
    dt+qm+ODD+yj+OF+at dbs+qm+EVEN+yj+OF+at en+qm+EVEN+yj+OF+at dt+qm+EVEN+yj+OF+at 8+TUUMU
    0KANNADA+g+SPACING+ci aci abv adv aub 8a+A bA aI bI aU bU aby+R dL 2:aE bE aAI 2:aO bO aAU aKA
    ake aGA anu ajc aCA aju aJA arr ajz ana aii ang aiu aos aTA alc aDA ant aNA 2:aPA alv aBA aow
    aMA aYA aRA bRA aLA awg 2:aVA ajd aqj aSA aHA 3:8g+jj ahr 8bm+g+AA dI eI dU eU dby+R hR 2:dE eE
    dAI 2:dO eO dAU 8g+en 8:8lo+aj 8AI+lo+aj 7:8a+NAKAARA+POLLU aFA 2:aby+RR dLL 8bm+g+by+L hL
    3:9r+du bbs cn bt bat cy bev bau cr bcj 2:8g+oa bj e:0MALAYALAM+g+ck+bv+i di cbv cdv aa+VEDIC+bv
    cA dA cI dI cU dU cby+R fL 2:cE dE cAI 2:cO dO cAU cKA cke cGA cnu cjc cCA cju cJA crr cjz cna
    cii cng ciu cos cTA clc cDA cnt cNA dNNA cPA clv cBA cow cMA cYA cRA dRA cLA cwg cLLLA cVA cjd
    cqj cSA cHA cTTTA ag+r+fa+en cxg+en chr abm+g+AA fI gI fU gU fby+R jR 2:fE gE fAI 2:fO gO fAU
    ag+en aa+bw+REPH ag+PARA 5:aa+CHILLU+M jY jLLL aAU+lo+aj agq+bs+zl gFORTIETH dt+EIGHTIETHS
    dbs+TWENTIETH hENTH dt+TWENTIETHS dbs+FIFTH aa+hq+II cby+RR fLL abm+g+by+L jL 3:br+du dbs en dt
    dat ey dev dau er dcj acq+ik dbs+ab hc agq+bs+ek gcc dt+ig dbs+rv ghb dt+yq aDATE+aj
    aa+CHILLU+NN k jRR jL kL jK 2:0SINHALA+g+ci aANUSVARAYA aVISARGAYA 2:8a+AYANNA bAYANNA bEYANNA
    cEYANNA aIYANNA bIYANNA aUYANNA bUYANNA aIRUYANNA dUYANNA bLUYANNA dUYANNA aEYANNA bEYANNA
    aAIYANNA aOYANNA bOYANNA aAUYANNA 4:aje+KAYANNA aij+KAYANNA aje+GAYANNA aij+GAYANNA
    aKANTAJA+NAASIKYAYA aSANYAKA+GAYANNA aje+CAYANNA aij+CAYANNA aje+JAYANNA aij+JAYANNA
    aTAALUJA+NAASIKYAYA iSANYOOGA+NAAKSIKYAYA aSANYAKA+JAYANNA aje+TTAYANNA aij+TTAYANNA
    aje+DDAYANNA aij+DDAYANNA aMUURDHAJA+NAYANNA aSANYAKA+DDAYANNA aje+TAYANNA aij+TAYANNA
    aje+DAYANNA aij+DAYANNA aDANTAJA+NAYANNA 2:aSANYAKA+DAYANNA aje+PAYANNA aij+PAYANNA aje+BAYANNA
    aij+BAYANNA aMAYANNA aAMBA+BAYANNA aYAYANNA aRAYANNA 2:aDANTAJA+LAYANNA 3:aVAYANNA
    aTAALUJA+SAYANNA aMUURDHAJA+SAYANNA aDANTAJA+SAYANNA aHAYANNA aMUURDHAJA+LAYANNA aFAYANNA
    4:8g+AL-LAKUNA 5:8bm+g+AELA-PILLA dKETTI+AEDA-PILLA dDIGA+AEDA-PILLA dKETTI+IS-PILLA
    dDIGA+IS-PILLA dKETTI+PAA-PILLA 2:dDIGA+PAA-PILLA 2:dGAETTA-PILLA dKOMBUVA dDIGA+KOMBUVA
    dKOMBU+DEKA iVA+HAA+AELA-PILLA pDIGA+AELA-PILLA pGAYANUKITTA dGAYANUKITTA 7:8LITH+br+du gbs hn
    gt gat hy gev gau hr gcj 3:8bm+g+DIGA+GAETTA-PILLA kYANUKITTA 9c+KUNDDALIYA d:0THAI+lj+KO+KAI
    9HO+KHAI eUAT eWAI eON cRAKHANG 8NGO+NGU 8CHO+CHAN eING eANG 8SO+SO 8CHO+CHOE 8YO+YING 8DO+CHADA
    8TO+PATAK 9HO+THAN cNANGMONTHO cPHUTHAO 8NO+NEN 8DO+DEK 8TO+TAO 9HO+THUNG eAHAN eONG 8NO+NU
    8BO+BAIMAI 8PO+PLA 9HO+PHUNG 8FO+FA 8PHO+PHAN 8FO+FAN 8PHO+SAMPHAO 8MO+MA 8YO+YAK 8RO+RUA 9U
    8LO+LING 9U 8WO+WAEN 8SO+SALA bRUSI bSUA 8HO+HIP 8LO+CHULA 8O+ANG 8HO+NOKHUK 8PAIYANNOI 8SARA+A
    8MAI+HAN-AKAT 8SARA+AA eM dI eI dUE fE e eU 8PHINTHU 5:5xh+w+BAHT 5lj+SARA+E dAE dO dAI+MAIMUAN
    kALAI 8LAKKHANGYAO 8MAIYAMOK bTAIKHU b+EK cTHO dRI cCHATTAWA 8THANTHAKHAT 8NIKHAHIT 8YAMAKKAN
    8FONGMAN 5br+du 8bs 9n 8t 8at 9y 8ev 8au 9r 8cj 5lj+ANGKHANKHU 8KHOMUT 26:0LAO+a+KO 7HO+SUNG
    2:aTAM 2:6PALI+nu 6NGO 6CO 6PALI+ju 6SO+TAM 2:6PALI+rr 6NYO 6PALI+jz bna bii bng biu bos 6DO 6TO
    7HO+SUNG aTAM 6PALI+nt 6NO 6BO 6PO 7HO+SUNG 6FO+TAM 6PHO+TAM 6FO+SUNG 6PALI+ow 6MO 6YO 6LO+LING
    2:aOOT 2:6WO 6SANSKRIT+jd fqj 7O+SUNG 6HO+SUNG 6PALI+wg 6O 6HO+TAM 4pd 4bm+g+A 9MAI+KAN 9AA aM
    9I aI 9Y aY 9U aU 4g+PALI+en 4bm+g+MAI+KON 4SEMIVOWEL+g+LO gNYO 3:4bm+g+E aI 9O 9AY aI 2:4KO+LA
    2:4el+MAI+EK bTHO cI bCATAWA 4td+aj 4NIGGAHITA 3:4br+du 7bs 8n 7t 7at 8y 7ev 7au 8r 7cj 3:4HO+NO
    7MO 4a+KHMU+GO bNYO 21:0TIBETAN+hv+OM 8aj+GTER+YIG+MGO+TRUNCATED+A o-UM+RNAM+BCAD+MA sGTER+ug+MA
    bs+YIG+MGO+MDUN+MA bCLOSING+YIG+MGO+SGAB+MA bvk+YIG+MGO+PHUR+ua+MA bYIG+MGO+ug+ua+MA bSBRUL+ua
    bBSKUR+YIG+MGO cKA-+SHOG+YIG+MGO bINTERSYLLABIC+ug bDELIMITER+ug+BSTAR bua bNYIS+ua bug+ua
    bNYIS+ug+ua bRIN+CHEN+SPUNGS+ua cGYA+GRAM+ua bvk+-DZUD+sm+ME+eh+CAN bGTER+ug 8LOGOTYPE+g+CHAD+sm
    jLHAG+sm 8ASTROLOGICAL+g+SGRA+GCAN+-CHAR+sm n-KHYUD+PA nSDONG+TSHUGS 8g+RDEL+DKAR+GCIG lNYIS
    lSUM fNAG+GCIG kNYIS fDKAR+RDEL+NAG 8br+du bbs cn bt bat cy bev bau cr bcj cc+bs fn et eat fy
    eev eau fr ecj edu 8aj+BSDUS+sm bNGAS+BZUNG+NYI+ZLA bvk+-DZUD+sm+BZHI+MIG+CAN
    bNGAS+BZUNG+SGOR+sm bzb+MGO buk+-PHRU bGUG+sm+GYON kAS bANG+KHANG+GYON nAS 8g+YAR+TSHES
    aMAR+TSHES 8a+KA ake aGA anu ajc aCA aju aJA 2:ajz ana aii ang aiu aos aTA alc aDA ant aNA aPA
    alv aBA aow aMA auk avb aDZA cHA aWA aZHA bA a-A aYA aRA aLA ajd aqj aSA aHA aA aKSSA
    aFIXED-FORM+RA aKKA aRRA 5:8bm+g+AA dI eI dU eU dby+R hR gL hL dE eE dO eO 8g+RJES+SU+jc+RO
    bNAM+BCAD 8bm+g+aq+I hI 8g+NYI+ZLA+NAA+DA aSNA+LDAN 8aj+HALANTA bPALUTA 8g+LCI+sm azw+sm
    aLCE+uk+CAN aMCHU+CAN aGRU+CAN+RGYINGS eMED+RGYINGS aba+MCHU+CAN 8rx+g+LCE+uk+CAN dMCHU+CAN
    dba+MCHU+CAN ba+KA dke dGA dnu djc dCA dju dJA 2:djz dna dii dng diu dos dTA dlc dDA dnt dNA dPA
    dlv dBA dow dMA duk dvb dDZA fHA dWA dZHA eA d-A dYA dRA dLA djd dqj dSA dHA dA dKSSA
    dFIXED-FORM+WA oYA oRA 2:8KU+RU+ke g+BZHI+MIG+CAN 8CANTILLATION+g+al+BEAT nbl+BEAT nCANG+TE-U
    nSBUB+-CHAL 8w+DRIL+BU aRDO+RJE aPADMA+GDAN aRDO+RJE+RGYA+GRAM aPHUR+PA aNOR+BU g+NYIS+-KHYIL
    hGSUM+-KHYIL hBZHI+-KHYIL 2:8g+RDEL+NAG+RDEL+DKAR jGSUM 8aj+BSKA-+SHOG+GI+MGO+RGYAN
    bMNYAM+YIG+GI+MGO+RGYAN bNYIS+ug bs+BRDA+RNYING+YIG+MGO+MDUN+MA
    bCLOSING+BRDA+RNYING+YIG+MGO+SGAB+MA 0ty+SVASTI+g 0vp+SVASTI+g 0ty+SVASTI+g+b+cu
    0vp+SVASTI+g+b+cu 0TIBETAN+aj+LEADING+MCHAN+sm bTRAILING+MCHAN+sm 26:0MYANMAR+a+KA ake aGA anu
    ajc aCA aju aJA arr ajz aNNYA ana aii ang aiu aos aTA alc aDA ant aNA aPA alv aBA aow aMA aYA
    aRA aLA aWA aSA aHA awg aA aSHAN+A aI bI aU bU aE aMON+E aO aAU 8bm+g+TALL+AA dAA dI eI dU eU dE
    dAI dMON+II hO dE+i 8g+bv bw+m adv aen aASAT 8eq+g+bf+YA gRA gWA gHA 8a+GREAT+SA 8br+du bbs cn
    bt bat cy bev bau cr bcj 8g+db+gi agi 8w+LOCATIVE aCOMPLETED aAFOREMENTIONED aGENITIVE 8a+jd aqj
    aby+R eR dL eL 8bm+g+by+R hR gL hL 8a+MON+jc err eBBA gE 8eq+g+MON+bf+NA kMA kLA 8a+SGAW+xw+jd
    8bm+g+SGAW+xw+EU 8el+aj+SGAW+xw+HATHI mKE+PHO 8a+WESTERN+PWO+xw+lc pPWA 8bm+g+WESTERN+PWO+xw+EU
    sUE 8g+WESTERN+PWO+xw+TONE-1 u2 u3 u4 u5 8a+EASTERN+PWO+xw+os pYWA pGHWA 8bm+g+GEBA+xw+I
    dKAYAH+OE jU jEE 8a+SHAN+KA fke fGA fCA fZA fjz fDA fNA flv fFA fBA flc fHA 8eq+g+SHAN+bf+WA
    8bm+g+SHAN+AA iE j+i in+Y 8g+SHAN+TONE-2 k3 k5 k6 fCOUNCIL+TONE-2 s3 nEMPHATIC+el
    8a+RUMAI+PALAUNG+FA 8g+RUMAI+PALAUNG+TONE-5 8SHAN+br+du gbs hn gt gat hy gev gau hr gcj
    8g+KHAMTI+TONE-1 m3 8bm+g+AITON+A kI 8w+SHAN+bs fcy 0xo+c+a+AN 7BAN 7GAN 7DON 7EN 7VIN 7ZEN 7TAN
    7IN 7KAN 7LAS 7MAN 7NAR 7ON 7PAR 7ZHAR 7RAE 7SAN 7TAR 7UN 7PHAR 7KHAR 7GHAN 7QAR 7lf 7CHIN 8AN
    7JIL 7CIL 8HAR 7XAN 7JHAN 7HAE 8E 8IE 7WE 7HAR 8OE 2:7YN 6:7AEN 3:3a+AN 5BAN 5GAN 5DON 5EN 5VIN
    5ZEN 5TAN 5IN 5KAN 5LAS 5MAN 5NAR 5ON 5PAR 5ZHAR 5RAE 5SAN 5TAR 5UN 5PHAR 5KHAR 5GHAN 5QAR 5lf
    5CHIN 6AN 5JIL 5CIL 6HAR 5XAN 5JHAN 5HAE 6E 6IE 5WE 5HAR 6OE 5FI 5YN 5ELIFI 5bh+GAN 5sp 3ux+ei
    0dx+a+xo+NAR 0xo+a+AEN 5HARD+g 5LABIAL+g 0sv+CHOSEONG+us cvx cNIEUN cva dy cRIEUL cMIEUM cPIEUP
    cyt cSIOS dSANGSIOS cxt df cys crp ds dz dt cHIEUH cNIEUN-KIYEOK cSSANGNIEUN cNIEUN-TIKEUT
    iPIEUP cTIKEUT-KIYEOK cRIEUL-NIEUN cSSANGRIEUL cvs cKAPYEOUNRIEUL cMIEUM-PIEUP czj cPIEUP-KIYEOK
    iNIEUN iTIKEUT cyi cPIEUP-SIOS-KIYEOK ctv cPIEUP-SIOS-PIEUP jSANGSIOS jIOS-CIEUC iCIEUC jHIEUCH
    iTHIEUTH iPHIEUPH czk cKAPYEOUNSSANGPIEUP cSIOS-KIYEOK hNIEUN hTIKEUT hRIEUL hMIEUM hPIEUP
    m-KIYEOK hSSANGSIOS hIEUNG hCIEUC iHIEUCH hKHIEUKH hTHIEUTH hPHIEUPH hHIEUH cCHITUEUMSIOS
    lSANGSIOS dEONGCHIEUMSIOS oSANGSIOS cPANSIOS cIEUNG-KIYEOK iTIKEUT iMIEUM iPIEUP iSIOS iPANSIOS
    cSSANGIEUNG cIEUNG-CIEUC jHIEUCH iTHIEUTH iPHIEUPH cYESIEUNG cCIEUC-IEUNG dHITUEUMCIEUC
    kSSANGCIEUC dEONGCHIEUMCIEUC nSSANGCIEUC dHIEUCH-KHIEUKH kHIEUH fTUEUMCHIEUCH dEONGCHIEUMCHIEUCH
    cPHIEUPH-PIEUP cwf cSSANGHIEUH cYEORINHIEUH cKIYEOK-TIKEUT cNIEUN-SIOS cvq dr cTIKEUT-RIEUL cst
    3JUNGSEONG+st dA eE dYA fE dEO e dYEO f dO dWA fE dOE dYO dU dWEO f eI dYU dEU dYI dI dA-O fU
    dYA-O gYO dEO-O gU gEU dYEO-O hU dO-EO g fYE fO fU dYO-YA iE hEO gO gI dU-A gE fEO-EU fYE fU
    dYU-A gEO h gYEO i gU gI dEU-U gEU dYI-U dI-A fYA fO fU fEU fARAEA dARAEA i-EO jU jI dSSANGARAEA
    dA-EU dYA-U eEO-YA dO-YA hE 4ONGSEONG+us dvx dKIYEOK-SIOS dNIEUN dvq er ea dRIEUL dtx dvt eu dyl
    dzq ep dvs dMIEUM dPIEUP dyi dSIOS eSANGSIOS dxt ef drp es ez et dHIEUH dKIYEOK-RIEUL
    kSIOS-KIYEOK dNIEUN-KIYEOK jTIKEUT jSIOS jPANSIOS jTHIEUTH dTIKEUT-KIYEOK kRIEUL
    dRIEUL-KIYEOK-SIOS jNIEUN jTIKEUT p-HIEUH dSSANGRIEUL dRIEUL-MIEUM-KIYEOK pSIOS jPIEUP-SIOS
    pHIEUH jKAPYEOUNPIEUP jSSANGSIOS jPANSIOS jKHIEUKH jYEORINHIEUH dMIEUM-KIYEOK jRIEUL jPIEUP
    jSIOS kSANGSIOS jPANSIOS jCHIEUCH jHIEUH dzj dPIEUP-RIEUL jPHIEUPH jHIEUH dzk dSIOS-KIYEOK
    iTIKEUT iRIEUL iPIEUP dPANSIOS dIEUNG-KIYEOK jSSANGKIYEOK dSSANGIEUNG dIEUNG-KHIEUKH dYESIEUNG
    l-SIOS mPANSIOS dPHIEUPH-PIEUP dwf dHIEUH-NIEUN jRIEUL jMIEUM jPIEUP dYEORINHIEUH dKIYEOK-NIEUN
    kPIEUP kCHIEUCH kKHIEUKH kHIEUH dSSANGNIEUN 0ETHIOPIC+hv+HA dU dI dAA dEE e dO eA cLA dU dI dAA
    dEE e dO dWA cHHA eU eI eAA eEE f eO eWA cMA dU dI dAA dEE e dO dWA cSZA eU eI eAA eEE f eO eWA
    cRA dU dI dAA dEE e dO dWA cSA dU dI dAA dEE e dO dWA cjd cSHU eI eAA eEE csn cSHO eWA cQA dU dI
    dAA dEE e dO eA dWA 2:eI eAA eEE f 3:dHA eU eI eAA eEE f eO 2:eWA 2:fI fAA fEE g 3:cBA dU dI dAA
    dEE e dO dWA cVA dU dI dAA dEE e dO dWA cTA dU dI dAA dEE e dO dWA cCA dU dI dAA dEE e dO dWA
    cXA dU dI dAA dEE e dO eA dWA 2:eI eAA eEE f 3:cNA dU dI dAA dEE e dO dWA cjz cNYU eI eAA eEE f
    eO eWA cfp+A fU fI fAA fEE g fO fWA cKA dU dI dAA dEE e dO eA dWA 2:eI eAA eEE f 3:dXA eU eI eAA
    eEE f eO 2:eWA 2:fI fAA fEE g 3:cWA dU dI dAA dEE e dO eA cPHARYNGEAL+A nU nI nAA nEE o nO 2:cZA
    dU dI dAA dEE e dO dWA dHA eU eI eAA eEE f eO eWA cYA dU dI dAA dEE e dO eA cDA dU dI dAA dEE e
    dO dWA cng cDDU eI eAA eEE f eO eWA cJA dU dI dAA dEE e dO dWA cGA dU dI dAA dEE e dO eA dWA
    2:eI eAA eEE f 3:dGA eU eI eAA eEE f eO eWAA clc cTHU eI eAA eEE cqn cTHO eWA cju cCHU czc cCHAA
    eEE czb cCHO eWA clv cPHU cyh cPHAA eEE f eO eWA cuk cTSU eI eAA eEE f eO eWA dZA eU eI eAA eEE
    f eO fA cFA dU dI dAA dEE e dO dWA cPA dU dI dAA dEE e dO dWA cRYA cMYA cFYA 3:9ck+su+p+bm+lo+aj
    cbm+lo+aj csu+aj 9gi+aj 9WORDSPACE 9hd+fb 9dp 9ix 9hs 9PREFACE+hs 9eb+aj 9ux+ei 9br+bs dn ct cat
    dy cev cau dr ccj 9cq+ik cem cih cmg chk cno cef cll cez cab cik+ac 4:9hv+SEBATBEIT+MWA cMWI eEE
    f cSEBATBEIT+BWA cBWI eEE f cSEBATBEIT+FWA cFWI eEE f cSEBATBEIT+PWA cPWI eEE f 9TONAL+aj+YIZET
    iDERET iRIKRIK iet+RIKRIK iDIFAT iKENAT iCHIRET iHIDET iDERET-HIDET iKURT 7:0CHEROKEE+a+A bE bI
    bO bU bV bGA bKA bGE cI cO cU cV bHA cE cI cO cU cV bLA cE cI cO cU cV bMA cE cI cO cU bNA bHNA
    bNAH cE cI cO cU cV bQUA dE dI dO dU dV bSA c cE cI cO cU cV bDA bTA bDE bTE bDI bTI bDO cU cV
    cLA bTLA dE dI dO dU dV buk bTSE dI dO dU dV bWA cE cI cO cU cV bYA cE cI cO cU cV bMV 3:9d+a+YE
    eI eO eU eV dMV 3:1ANADIAN+SYLLABICS+op jE jAAI jI kI jO kO jov+OO jmj+EE mI jA kA jWE jag+WE
    jWI jag+WI jWII jag+WII jWO jag+WO jWOO jag+WOO job+WOO jWA jag+WA jWAA jag+WAA job+WAA jAI
    jov+W jfp+fb jn+ca ldf lfx+cc+dh lpw+cc+dh lh+cc+dh ldh ll+ca net+r+STROKES lad+bw let+y+u lbx
    lcb+jx jEN jIN jON jAN jPE kAAI kI lI kO lO jov+POO jmj+HEE nI jPA lA kWE jag+PWE jPWI jag+PWI
    jPWII jag+PWII jPWO jag+PWO jPWOO jag+PWOO jPWA jag+PWA jPWAA jag+PWAA jov+PWAA jP jag+P jmj+H
    jTE kAAI kI lI kO lO jov+TOO jmj+DEE nI jTA lA kWE jag+TWE jTWI jag+TWI jTWII jag+TWII jbn
    jag+bn jTWOO jag+TWOO jTWA jag+TWA jTWAA jag+TWAA job+TWAA jT kTE lI lO jna jKE kAAI kI lI kO lO
    jov+KOO jKA lA kWE jag+KWE jKWI jag+KWI jKWII jag+KWII jKWO jag+KWO jKWOO jag+KWOO jKWA jag+KWA
    jKWAA jag+KWAA job+KWAA jK kW jSOUTH-SLAVEY+KEH xIH xOH xAH jCE kAAI kI lI kO lO jov+COO jCA lA
    kWE jag+CWE jCWI jag+CWI jCWII jag+CWII jCWO jag+CWO jCWOO jag+CWOO jCWA jag+CWA jCWAA jag+CWAA
    job+CWAA jC jsx+TH jME kAAI kI lI kO lO jov+MOO jMA lA kWE jag+MWE jMWI jag+MWI jMWII jag+MWII
    jMWO jag+MWO jMWOO jag+MWOO jMWA jag+MWA jMWAA jag+MWAA job+MWAA jM jag+M jMH jATHAPASCAN+M
    jsx+M jNE kAAI kI lI kO lO jov+NOO jNA lA kWE jag+NWE jNWA jag+NWA jNWAA jag+NWAA job+NWAA jN
    jmj+NG jNH jLE kAAI kI lI kO lO jov+LOO jLA lA kWE jag+LWE jLWI jag+LWI jLWII jag+LWII jLWO
    jag+LWO jLWOO jag+LWOO jLWA jag+LWA jLWAA jag+LWAA jL jag+L jbf+L jSE kAAI kI lI kO lO jov+SOO
    jSA lA kWE jag+SWE jSWI jag+SWI jSWII jag+SWII jSWO jag+SWO jSWOO jag+SWOO jSWA jag+SWA jSWAA
    jag+SWAA job+SWAA jS jATHAPASCAN+S jSW jBLACKFOOT+S jMOOSE-CREE+SK job+SKW n-W nPWA nTWA nKWA
    nCWA jsn jSHI mI lO mO jjd jSHAA lWE jag+SHWE jSHWI jag+SHWI jSHWII jag+SHWII jSHWO jag+SHWO
    jSHWOO jag+SHWOO jSHWA jag+SHWA jSHWAA jag+SHWAA jSH jYE kAAI kI lI kO lO jov+YOO jYA lA kWE
    jag+YWE jYWI jag+YWI jYWII jag+YWII jYWO jag+YWO jYWOO jag+YWOO jYWA jag+YWA jYWAA jag+YWAA
    job+YWAA jY jBIBLE-CREE+Y jag+Y jsx+YI jRE k-CREE+RE jag+LE jRAAI kI lI kO lO jag+LO jRA lA
    jag+LA jRWAA jag+RWAA jR jag+R jbf+R jFE kAAI kI lI kO lO kA lA kWAA jag+FWAA jF jqn jN-CREE+qn
    jTHI jN-CREE+THI jTHII jN-CREE+THII jTHO mO jlc jTHAA lWAA jag+THWAA jTH kTHE mI mO jii jTTH kYE
    lI lO lA jNUNAVIK+HE sI tI sO tO sA tA s oUT+H jHK jQAAI kI lI kO lO kA lA k jTLHE mI mO mA
    jag+RE nI nO nA jNGAAI lI mI lO mO jjc jNGAA l kNG jsx+sn mSHI oO mjd jWOODS-CREE+qn uTHI wO ulc
    uTH jLHI mI lO mO lA mA l jTH-CREE+qn rTHI uI tO uO rlc rTHAA t jAIVILIK+B jBLACKFOOT+E tI tO tA
    tWE uI uO uA tNE uI uO uA tKE uI uO uA jsx+HE nI nO nA jmj+GHU oO oE pE oI mnu mRU nO nE oE nI
    nA mWU nO nE oE nI nA mHWU oO oE pE oI oA mTHU oO mqn mTHEE oI mlc mTTU oO oE pE oI mna mPU nO
    nE oE nI nA n mGU nO nE oE nI nA mKHU oO oE pE oI mke mKKU oO oE pE oI oA o mNU nO nE oE nI nA
    mMU nO nE oE nI nA mYU nO nE oE nI nA mJU jsx+JU jmj+JO nE oE nI jsx+JI jmj+JA nJU oO oE pE oI
    oA mLU nO nE oE nI nA mDLU oO oE pE oI oA mLHU oO oE pE oI oA mTLHU pO pE qE pI pA oU oO oE pE
    oI oA mZU nO nE oE nI nA n ms+Z mDZU oO oE pE oI oA mSU nO nE oE nI nA nHU oO msn mSHEE oI mjd
    mSH mTSU oO oE pE oI muk mCHU oO mzb mCHEE mzc mju mTTSU pO pE qE pI pA jzc+g jhd+fb jQAI jNGAI
    kNGI nI mO nO mA nA jWOODS-CREE+THWEE xI yI xO yO xA yA un+TH jBLACKFOOT+W 0OGHAM+kk+aj 6a+BEITH
    8LUIS 8FEARN 8SAIL 8NION 8UATH 8DAIR 8TINNE 8COLL 9EIRT 8MUIN 8GORT 8NGEADAL 8STRAIF 8RUIS 8AILM
    8ONN 8UR 8EADHADH 8IODHADH 8EABHADH 8OR 8UILLEANN 8IFIN 8EAMHANCHOLL 8PEITH 6FEATHER+aj
    6aq+FEATHER+aj 4:0RUNIC+a+FEHU+FEOH+FE+F 8V 8URUZ+UR+U 8YR 9 8W 8THURISAZ+THURS+THORN 8ETH
    8ANSUZ+A 8OS+O 8AC+A 9ESC 8LONG-BRANCH-OSS+O 8SHORT-TWIG-OSS+O 8O 9E 9N 8RAIDO+RAD+REID+R 8KAUNA
    8CEN 8KAUN+K 8G 8ENG 8GEBO+GYFU+G 8we 8WUNJO+WYNN+W 8HAGLAZ+H aEGL+H 8LONG-BRANCH-HAGALL+H
    8SHORT-TWIG-HAGALL+H 8NAUDIZ+NYD+NAUD+N 8SHORT-TWIG-NAUD+N 8DOTTED-N 8ISAZ+IS+ISS+I 8E 8JERAN+J
    8GER 8LONG-BRANCH-AR+AE 8SHORT-TWIG-AR+A 8IWAZ+EOH 8PERTHO+PEORTH+P 8ALGIZ+EOLHX 8SOWILO+S
    9IGEL+LONG-BRANCH-SOL+S 9HORT-TWIG-SOL+S 8C 8Z 8TIWAZ+TIR+TYR+T 8SHORT-TWIG-TYR+T 8D
    8BERKANAN+BEORC+BJARKAN+B 8SHORT-TWIG-BJARKAN+B 8DOTTED-P 8OPEN-P 8EHWAZ+EH+E 8MANNAZ+MAN+M
    8LONG-BRANCH-MADR+M 8SHORT-TWIG-MADR+M 8LAUKAZ+LAGU+LOGR+L 8DOTTED-L 8INGWAZ b 8DAGAZ+DAEG+D
    8OTHALAN+ETHEL+O 8EAR 8IOR 8CWEORTH 9ALC 9EALC 8STAN 8LONG-BRANCH-YR 8SHORT-TWIG-YR
    8ICELANDIC-YR 8Q 8X 6ce+bc 6ji+bc 6fn+bc 6ARLAUG+w 6TVIMADUR+w 6BELGTHOR+w 6a+K 8SH 8OO
    8FRANKS+CASKET+OS mIS mEH mAC nESC 8:0TAGALOG+a+A aI aU aKA aGA ajc aTA aDA aNA aPA aBA aMA aYA
    aRA aLA aWA aSA aHA 8bm+g+I dU 8g+en aPAMUDPOD a:8a+hq+RA 0HANUNOO+a+A aI aU aKA aGA ajc aTA aDA
    aNA aPA aBA aMA aYA aRA aLA aWA aSA aHA 8bm+g+I dU 8g+PAMUDPOD 0PHILIPPINE+ce+bc bl+bc
    a:0BUHID+a+A 8I 8U 8KA 8GA 8jc 8TA 8DA 8NA 8PA 8BA 8MA 8YA 8RA 8LA 8WA 8SA 8HA 6bm+g+I bU
    d:0TAGBANWA+a+A bI bU bKA bGA bjc bTA bDA bNA bPA bBA bMA bYA 2:bLA bWA bSA 2:9bm+g+I eU
    d:0KHMER+a+KA 8ke 8KO 9HO 8NGO 8CA 8ju 8CO 9HO 8NYO 8DA 8ii 8DO 8TTHO 8NNO 8TA 8lc 8TO 9HO 8NO
    8BA 8lv 8PO 9HO 8MO 8YO 8RO 8LO 8VO 8jd 8SSO 9A 8HA 8LA 8QA 6kh+bm+QAQ eA dI eI dU eK eU fV cRY
    eY cLY eY cQE dAI dOO+TYPE+bs mn dAU 6bm+INHERENT+AQ jA 9g+AA bI cI bY cY bU cU cA bOE bYA bIE
    bE bAE cI bOO bAU 6g+NIKAHIT 8REAHMUK 8YUUKALEAPINTU 8MUUSIKATOAN 8TRIISAP 8BANTOC 8ROBAT
    8TOANDAKHIAT 8KAKABAT 8AHSDA 8SAMYOK+SANNYA 8VIRIAM 8COENG 8BATHAMASAT 8KHAN 8BARIYOOSAN
    8CAMNUC+PII+KUUH 8LEK+TOO 8BEYYAL 8PHNAEK+MUAN 8KOOMUUT 6xh+w+RIEL 6g+AVAKRAHASANYA 9TTHACAN
    3:6br+du 9bs an 9t 9at ay 9ev 9au ar 9cj 7:6w+LEK+ATTAK+SON iMUOY iPII iBEI jUON iPRAM m-MUOY
    nPII nBEI oUON 7:0MONGOLIAN+vj apd adp ahd+fb bs aat+cu aTODO+wk+op aSIBE+hv+BOUNDARY+uv
    aMANCHU+dp hhd+fb aNIRUGU aFREE+vc+SELECTOR+bs sn rt abm+ei aFREE+vc+SELECTOR+at abr+du dbs en
    dt dat ey dev dau er dcj 7:aa+A cE cI cO cU cOE cUE cEE cNA cANG cBA cPA cQA cGA cMA cLA cSA cjd
    cTA cDA cju cJA cYA cRA cWA cFA cKA cke cuk cZA cHAA cZRA cLHA cZHI czc cTODO+eh+bm+g hE hI hO
    hU hOE hUE hANG hBA hPA hQA hGA hMA hTA hDA hju hJA huk hYA hWA hKA hGAA hHAA hJIA hNIA hDZA
    cSIBE+E hI iY hUE i hANG hKA hGA hHA hPA hjd hTA hDA hJA hFA hGAA hHAA huk hZA hRAA hju hZHA
    cMANCHU+I jKA jRA jFA jZHA cju+b+bn+cu 8:cALI+GALI+bv+bs ldv+bs lDAMARU lUBADAMA lba+UBADAMA
    lBALUDA lt+BALUDA lA lI lKA ljc lCA lna lii lng los lTA lDA lPA llv lqj lZHA mA lAH
    cTODO+ALI+GALI+TA qZHA cMANCHU+ALI+GALI+nu sjc sCA srr sna siu sTA snt sqj sCYA sZHA tA
    cALI+GALI+cc+U oYA cMANCHU+ALI+GALI+ow cALI+GALI+DAGALGA cMANCHU+ALI+GALI+LHA
    6:0CANADIAN+SYLLABICS+OY jAY kAY jWAY jPOY kAY kWOY jTAY jKAY kWAY jMAY jNOY kAY jLAY jSOY kAY
    kHOY lAY lWOY jYOY kAY jRAY jNWI jOJIBWAY+NWI jNWII jOJIBWAY+NWII jNWO jOJIBWAY+NWO jNWOO
    jOJIBWAY+NWOO jRWEE lI mI lO mO lA jOJIBWAY+P rT rK rC rM rN rS sH jEASTERN+W jWESTERN+W jn+d+dh
    lhf+bw jR-CREE+RWE jag+LOO nAA jTHWE mA kTHWE mOO mAA kLHWE mOO jsx+SHWE oOO mHOO jmj+GWU
    mDENE+GEE mGAA nWA jsx+JUU jmj+JWA jBEAVER+DENE+L vR jmj+DENTAL+S b:0LIMBU+VOWEL-CARRIER+a 6a+KA
    8ke 8GA 8nu 8jc 8CA 8ju 8JA 8rr 8YAN 8TA 8lc 8DA 8nt 8NA 8PA 8lv 8BA 8ow 8MA 8YA 8RA 8LA 8WA 8jd
    8qj 8SA 8HA 8GYAN 8TRA 2:6bm+g+A bI bU bEE bAI bOO bAU bE bO 6rx+a+YA bRA bWA 5:6d+a+KA ajc abv
    aTA aNA aPA aMA aRA aLA 6g+MUKPHRENG 8KEMPHRENG 8SA-I 5:8LOO 4:6cy+aj 6eb+aj 6br+du 9bs an 9t
    9at ay 9ev 9au ar 9cj 0TAI+LE+a+KA 9XA 9jc 9uk 9SA 9YA 9TA 9lc 9LA 9PA 9lv 9MA 9FA 9VA 9HA 9QA
    9ke 9vb 9NA 9A 9I 9EE aH 9U 9OO a 9UE 9E 9AUE aI 3:9TONE-2 e3 e4 e5 e6 c:0NEW+TAI+LUE+a+ew+QA
    ehl+QA eew+KA hXA hjc ehl+KA hXA hjc eew+uk hSA hYA ehl+uk hSA hYA eew+TA hlc hNA ehl+TA hlc hNA
    eew+PA hlv hMA ehl+PA hlv hMA eew+FA hVA hLA ehl+FA hVA hLA eew+HA hDA hBA ehl+HA hDA hBA
    eew+KVA hXVA ehl+KVA hXVA eew+SUA ehl+SUA 5:cbm+g+bm+SHORTENER hAA hII hU iU hE hAE hO iA hUE
    hAY iAY hUY hOY iAY hUEY hIY ca+n+V gNG h gM gK gD gB cel+MARK-1 k2 7:cbr+du fbs gn ft fat gy
    fev fau gr fcj cTHAM+br+bs 4:cg+LAE hV 0KHMER+w+PATHAMASAT 8MUOY+ut 8PII+ut 8BEI+ut 9UON+ut
    8PRAM+ut c-MUOY+ut dPII+ut dBEI+ut eUON+ut 8DAP+ut b-MUOY+ut cPII+ut cBEI+ut dUON+ut cPRAM+ut
    8TUTEYASAT 8MUOY+ROC 8PII+ROC 8BEI+ROC 9UON+ROC 8PRAM+ROC c-MUOY+ROC dPII+ROC dBEI+ROC eUON+ROC
    8DAP+ROC b-MUOY+ROC cPII+ROC cBEI+ROC dUON+ROC cPRAM+ROC 0BUGINESE+a+KA bGA bjc bNGKA bPA bBA
    bMA cPA bTA bDA bNA cRA bCA bJA bjz bNYCA bYA bRA bLA bVA bSA bA bHA 9bm+g+I eU eE eO eAE
    3:9PALLAWA 9ui+OF+gi 0TAI+THAM+a+ew+KA eke eKXA bhl+KA fXA eke bjc bew+CA eju bhl+CA eSA eju bjz
    bRATA bew+RATHA bDA bhl+RATHA bRANA bew+TA elc bhl+TA elc bNA bBA bew+PA elv eFA bhl+PA eFA elv
    bMA bhl+YA bew+YA bRA cUE bLA cUE bWA bew+jd eqj eSA eHA bwg bA bhl+HA bI cI bU cU bEE bOO bLAE
    bGREAT+SA 9eq+g+bf+RA hLA eLA+TANG+LAI 9g+MAI+KANG+LAI 9eq+g+n+jc ehl+PA eew+RATHA+OR+hl+PA eMA
    eBA eSA 2:9g+SAKOT 9bm+g+A eMAI+SAT eAA eTALL+AA eI fI eUE fUE f fU eO fA+m fY eE eAE eOO eAI
    eTHAM+AI eOA+i 9g+MAI+KANG bTONE-1 g2 bKHUEN+TONE-3 m4 m5 bRA+HAAM bMAI+SAM bKHUEN-LUE+KARAN
    3:9ck+hw+bw 9HORA+br+du hbs in ht hat iy hev hau ir hcj 7:9THAM+br+du hbs in ht hat iy hev hau
    ir hcj 7:9g+WIANG gWAAK bSAWAN bKEOW bHOY bDOKMAI baq+bp+RANA bMAI+YAMOK bKAAN fKUU bSATKAAN
    iKUU bHANG bCAANG 3:0ck+DOUBLED+af+eu 4IAERESIS-RING 3tn 3aa+f 3dr+bw 3X-X+m 3WIGGLY+ft+m
    3ed+aj+m 3l+ed+aj+m 3bl+qt+u+m 3STRONG+qt+u+m 3PARENTHESES+i 3l+PARENTHESES+i 3PARENTHESES+m fgo
    3es+d+a+W+m abh+W+m 3o+bd+i+o 3h+bd+i+h 3o+bd+m+o 3h+bd+m+h 3an+BRACKETS+i 3cq+g+i 3ba+l+ARCH+i
    4x+g+i 3l+bx+g+i am 3dr+ca+eu 3es+d+a+ia+G dR dT 32:0BALINESE+g+ULU+RICEM fli bCECEK bSURANG
    bBISAH 9a+AKARA g+ou bIKARA g+ou bUKARA g+ou bRA+REPA i+ou bLA+LENGA j+ou bEKARA bAIKARA bOKARA
    g+ou bKA d+mx bGA d+GORA bjc bCA d+LACA bJA d+JERA bjz bTA+LATIK etu+mx bDA+tu+ALPAPRANA hmx
    bNA+RAMBAT bTA d+TAWA bDA d+MADU bNA bPA d+KAPAL bBA d+KEMBANG bMA bYA bRA bLA bWA bSA+SAGA gPA
    d bHA 9g+REREKAN 9bm+g+ou eULU h+SARI eSUKU i+ILUT eRA+REPA l+ou eLA+LENGA m+ou eTALING k+REPA
    lou lREPA+ou ePEPET j+ou 9ADEG+ADEG 9a+uj+SASAK bKHOT+SASAK bTZIR+SASAK bEF+SASAK bVE+SASAK
    bZAL+SASAK bASYURA+SASAK bhq+JNYA 4:9br+du cbs dn ct cat dy cev cau dr ccj 9PANTI bMADA 9WINDU
    9CARIK+PAMUNGKAH fSIKI fPAREREN 9PAMENENG 9ls+w+DONG fENG fUNG fANG i+SURANG fING fAENG fEUNG
    fAING gNG+GEDE eck+TEGEH hENDEP hKEMPUL lLI hJEGOGAN hKEMPUL+b+JEGOGAN lLI+b+JEGOGAN hBENDE
    hGONG eRIGHT-HAND+ed+DUG tAG pfk+TUK tAK eLEFT-HAND+ed+PANG sUNG ofk+PLAK tUK oed+PING
    9PANTI+LANTANG bMADA+LANTANG 2:0SUNDANESE+g+PANYECEK fGLAYAR gWISAD aa+A cI cU cAE cO cE dU cKA
    cQA cGA cjc cCA cJA cZA cjz cTA cDA cNA cPA cFA cVA cBA cMA cYA cRA cLA cWA cSA cXA cHA
    aeq+g+PAMINGKAL hNYAKRA jIKU abm+g+PANGHULU iYUKU iAELAENG iOLONG hMEPET hNEULEUNG ag+PAMAAEH
    cen aeq+g+PASANGAN+MA oWA aa+ke cSYA abr+du dbs en dt dat ey dev dau er dcj ahr aa+REU cLEU cow
    cn+K eM 0BATAK+a+A 8ip+A 8HA 8ip+HA 8MANDAILING+HA 8BA 8KARO+BA 8PA 8ip+PA 8NA 8MANDAILING+NA
    8WA 8ip+WA 8PAKPAK+WA 8GA 8ip+GA 8JA 8DA 8RA 8ip+RA 8MA 8ip+MA 8SOUTHERN+TA 8NORTHERN+TA 8SA
    8ip+SA 8MANDAILING+SA 8YA 8ip+YA 8jc 8LA 8ip+LA 8jz 8CA 8NDA 8MBA 8I 8U 6g+TOMPI 6bm+g+E
    bPAKPAK+E bEE bI bKARO+I bO bKARO+O bU c+qm+ip+SA 6eq+g+NG bH 6PANGOLAT 9ONGONAN
    9:6w+BINDU+NA+METEK ePINARBORAS eJUDUL ePANGOLAT 0LEPCHA+a+KA aLA 9ke 9GA aLA 9jc 9CA 9ju 9JA
    9jz 9TA 9lc 9DA 9NA 9PA aLA 9lv 9FA aLA 9BA aLA 9MA aLA 9uk 9vb 9DZA 9YA 9RA 9LA 9HA aLA 9VA 9SA
    9jd 9WA 9A 7rx+a+YA cRA 7bm+g+AA cI cO dO cU dU cE 7eq+g+K cM cL cN cP cR cT cNYIN-DO cKANG
    7g+RAN 9jj 4:7bc+TA-ROL aNYET+THYOOM+TA-ROL aCER-WA aTSHOOK+CER-WA g 8r+du abs bn at aat by aev
    aau br acj 4:7a+na 9ii 9ng 0OL+CHIKI+br+du cbs dn ct cat dy cev cau dr ccj 9a+LA bAT cG cNG cL
    bLAA bAAK dJ dM dW bLI bIS cH cNY cR bLU bUC cD cNN cY bLE bEP cDD cN cRR bLO bOTT cB cV cH
    9MU+TTUDDAG 9GAAHLAA+TTUDDAAG 9MU-GAAHLAA+TTUDDAAG 9RELAA 9PHAARKAA 9AHAD 9bc+MUCAAD cl+MUCAAD
    0it+d+a+oe+VE 7LONG-LEGGED+DE 7NARROW+O 7WIDE+ES 7TALL+TE 8HREE-LEGGED+TE 8ALL+HARD+g cYAT
    7UNBLENDED+UK 8:0xo+MTAVRULI+c+a+AN gBAN gGAN gDON gEN gVIN gZEN gTAN gIN gKAN gLAS gMAN gNAR
    gON gPAR gZHAR gRAE gSAN gTAR gUN gPHAR gKHAR gGHAN gQAR glf gCHIN hAN gJIL gCIL hHAR gXAN gJHAN
    gHAE hE hIE gWE gHAR hOE gFI gYN gELIFI gbh+GAN gsp 3:gAEN gHARD+g gLABIAL+g
    0SUNDANESE+bc+BINDU+SURYA jPANGLONG kURNAMA jCAKRA jLEU+SATANGA jKA+SATANGA jDA+SATANGA
    jBA+SATANGA 9:0VEDIC+el+KARSHANA 9SHARA 9PRENKHA 6g+NIHSHVASA 8YAJURVEDIC+MIDLINE+oi
    6el+YAJURVEDIC+AGGRAVATED+kh+oi kkh+oi kKATHAKA+kh+oi 9li+m 9YAJURVEDIC+KATHAKA+kh+oi+SCHROEDER
    9l+oi 9dr+oi 9KATHAKA+wy 9bw+m an+cu+m 9t+cu+m 9RIGVEDIC+KASHMIRI+kh+oi 9ATHARVAVEDIC+kh+oi
    6g+dv+oi bUDATTA 8aq+dv+UDATTA 8dv+wy 8aq+dv+wy 8dv+UDATTA+b+gu bwy+b+gu 8bv+ANTARGOMUKHA
    bBAHIRGOMUKHA bVAMAGOMUKHA m+b+gu 8TIRYAK 8HEXIFORM+eh+bv 8eh+bv 8RTHANG+eh+bv
    8bv+UBHAYATO+MUKHA 8ARDHAVISARGA 8bp+ARDHAVISARGA 6el+li+i 6g+oa 9j 8ATIKRAMA 6el+dh+i 9l+dh+i
    6g+l+bv+ANTARGOMUKHA 6:0es+a+d+c+A aE 3d+a+bh+AE 3a+d+c+qq+B 9C 9D 9ETH a 3d+a+bh+ed+E aI
    3a+d+c+J 9K 9L+b+u 9M 9aq+N 9O 9ed+O 3d+a+nn+O aed+O aO+b+u 7bh+OE 3a+d+c+OU 3d+a+pw+cc+O
    7fx+cc+O 3a+d+c+P 9aq+R 9bh+R 9T 9U 3d+a+nn+U aDIAERESIZED+U abh+M 3a+d+c+V 9W 9Z 9EZH
    5rl+LARYNGEAL+SPIRANT 5sp 0jg+a+d+c+kg 9qi 9PI 9wj 9PSI 0it+a+d+c+EL 0dx+a+c+A 8E 7B 7qq+B 7D 7E
    7aq+E 7G 7H 7I 7J 7K 7L 7M 7N 7aq+N 7O 8U 7P 7R 7T 7U 7W 5d+A 7bh+A 7hi 7bh+AE 7B 7D 7E 7vv
    7ed+E 7bh+ed+E 7G 7bh+I 7K 7M 7ENG 7O 7ed+O 7pw+cc+O 7fx+cc+O 7P 7T 7U 7nn+U 7bh+M 7V 7sp 7qs
    7jg+kg 7lg 7jg+yh 7zc 0es+ps+d+a+I aR aU aV 0jg+ps+d+a+qs akg awj ayh azc 0es+d+a+UE 7B+b+ad+bq
    7D+b+ad+bq 7F+b+ad+bq 7M+b+ad+bq 7N+b+ad+bq 7P+b+ad+bq 7R+b+ad+bq bqv+p+ad+bq 7S+b+ad+bq
    7T+b+ad+bq 7Z+b+ad+bq 7bh+G 0dx+a+it+EN 0es+d+a+ia+G 7TH+b+STRIKETHROUGH 5c+a+I+b+u 5a+ks+b+u
    7P+b+u 5c+a+U+b+u 5a+fq+b+u 7B+b+fh+av 7D+b+fh+av 7F+b+fh+av 7G+b+fh+av 7K+b+fh+av 7L+b+fh+av
    7M+b+fh+av 7N+b+fh+av 7P+b+fh+av 7R+b+fh+av 7S+b+fh+av 7ESH+b+fh+av 7V+b+fh+av 7X+b+fh+av
    7Z+b+fh+av 7A+b+bz+av 7hi+b+bz+av 7D+b+av+p+gu 7E+b+bz+av 7ed+E+b+bz+av 7aq+ed+E+b+bz+av
    7vv+b+bz+av 7I+b+bz+av 7ed+O+b+bz+av 7ESH+b+bz+av 7U+b+bz+av 7EZH+b+bz+av 0dx+a+d+bh+hi 7C
    8+b+pa 7ETH 7aq+ed+E 7F 7jy+J+b+u 7hn+G 7bh+H 7I+b+u 7ks 7c+I a+b+u 7J+b+im 7L+b+bz+av bfh+av
    7c+L 7M+b+av 7bh+M+b+eh+LEG 7N+b+o+av bbz+av 7c+N 7qq+O 7yh 7S+b+av 7ESH 7T+b+fh+av 7U+fa 7fq
    7c+U 7V+b+av 7bh+V 7Z 8+b+bz+av bpa 7EZH 7jn 0ck+ey+df+eu 6ca+eu 3SNAKE+m 4USPENSION+aj
    3MACRON-ACUTE 3GRAVE-MACRON 3MACRON-GRAVE 3ACUTE-MACRON 3GRAVE-ACUTE-GRAVE 3ACUTE-GRAVE-ACUTE
    3es+d+a+R+m 3BREVE-MACRON 3MACRON-BREVE 3l+af+i 4q+i 3vh+m 3IS+m 3UR+i 4S+i
    3es+d+a+FLATTENED+ed+A+i aAE bO bV aC+fg aia+D aETH aG 6a+d+c+G 6d+a+K aL 6a+d+c+L cM 6d+a+N
    6a+d+c+N cR 6d+a+R+ROTUNDA aS aeh+S aZ ahi aB aqs avv aF aL+b+l+ad+bq aO+b+bl+qt+u aP aESH
    aU+b+bl+qt+u aW aA+b+ak aO+b+ak aU+b+ak 3UP+jx+i 3KAVYKA+i+h co 3bw+i+o 3WIDE+ba+BRIDGE+m
    3bw+m+o 3DELETION+aj 3l+ba+ee+m 3kl+bj+TO+m 3o+am+i 3h+am+p+cb+am+m 0es+c+a+A+b+dh+m
    3d+a+A+b+dh+m 3c+a+B+b+bw+i 3d+a+B+b+bw+i 3c+a+B+b+bw+m 3d+a+B+b+bw+m 3c+a+B+b+ft+m
    3d+a+B+b+ft+m 3c+a+C+b+fg+p+ca 3d+a+C+b+fg+p+ca 3c+a+D+b+bw+i 3d+a+D+b+bw+i 3c+a+D+b+bw+m
    3d+a+D+b+bw+m 3c+a+D+b+ft+m 3d+a+D+b+ft+m 3c+a+D+b+fg 3d+a+D+b+fg 3c+a+D+b+af+m 3d+a+D+b+af+m
    3c+a+E+b+cp+p+df 3d+a+E+b+cp+p+df 3c+a+E+b+cp+p+ca 3d+a+E+b+cp+p+ca 3c+a+E+b+af+m 3d+a+E+b+af+m
    3c+a+E+b+bq+m 3d+a+E+b+bq+m 3c+a+E+b+fg+p+ee 3d+a+E+b+fg+p+ee 3c+a+F+b+bw+i 3d+a+F+b+bw+i
    3c+a+G+b+cp 3d+a+G+b+cp 3c+a+H+b+bw+i 3d+a+H+b+bw+i 3c+a+H+b+bw+m 3d+a+H+b+bw+m 3c+a+H+b+ak
    3d+a+H+b+ak 3c+a+H+b+fg 3d+a+H+b+fg 3c+a+H+b+ee+m 3d+a+H+b+ee+m 3c+a+I+b+bq+m 3d+a+I+b+bq+m
    3c+a+I+b+ak+p+ca 3d+a+I+b+ak+p+ca 3c+a+K+b+ca 3d+a+K+b+ca 3c+a+K+b+bw+m 3d+a+K+b+bw+m
    3c+a+K+b+ft+m 3d+a+K+b+ft+m 3c+a+L+b+bw+m 3d+a+L+b+bw+m 3c+a+L+b+bw+m+p+cp 3d+a+L+b+bw+m+p+cp
    3c+a+L+b+ft+m 3d+a+L+b+ft+m 3c+a+L+b+af+m 3d+a+L+b+af+m 3c+a+M+b+ca 3d+a+M+b+ca 3c+a+M+b+bw+i
    3d+a+M+b+bw+i 3c+a+M+b+bw+m 3d+a+M+b+bw+m 3c+a+N+b+bw+i 3d+a+N+b+bw+i 3c+a+N+b+bw+m
    3d+a+N+b+bw+m 3c+a+N+b+ft+m 3d+a+N+b+ft+m 3c+a+N+b+af+m 3d+a+N+b+af+m 3c+a+O+b+bq+p+ca
    3d+a+O+b+bq+p+ca 3c+a+O+b+bq+p+ak 3d+a+O+b+bq+p+ak 3c+a+O+b+cp+p+df 3d+a+O+b+cp+p+df
    3c+a+O+b+cp+p+ca 3d+a+O+b+cp+p+ca 3c+a+P+b+ca 3d+a+P+b+ca 3c+a+P+b+bw+i 3d+a+P+b+bw+i
    3c+a+R+b+bw+i 3d+a+R+b+bw+i 3c+a+R+b+bw+m 3d+a+R+b+bw+m 3c+a+R+b+bw+m+p+cp 3d+a+R+b+bw+m+p+cp
    3c+a+R+b+ft+m 3d+a+R+b+ft+m 3c+a+S+b+bw+i 3d+a+S+b+bw+i 3c+a+S+b+bw+m 3d+a+S+b+bw+m
    3c+a+S+b+ca+p+bw+i 3d+a+S+b+ca+p+bw+i 3c+a+S+b+fs+p+bw+i 3d+a+S+b+fs+p+bw+i 3c+a+S+b+bw+m+p+bw+i
    3d+a+S+b+bw+m+p+bw+i 3c+a+T+b+bw+i 3d+a+T+b+bw+i 3c+a+T+b+bw+m 3d+a+T+b+bw+m 3c+a+T+b+ft+m
    3d+a+T+b+ft+m 3c+a+T+b+af+m 3d+a+T+b+af+m 3c+a+U+b+ak+m 3d+a+U+b+ak+m 3c+a+U+b+bq+m
    3d+a+U+b+bq+m 3c+a+U+b+af+m 3d+a+U+b+af+m 3c+a+U+b+bq+p+ca 3d+a+U+b+bq+p+ca 3c+a+U+b+cp+p+ak
    3d+a+U+b+cp+p+ak 3c+a+V+b+bq 3d+a+V+b+bq 3c+a+V+b+bw+m 3d+a+V+b+bw+m 3c+a+W+b+df 3d+a+W+b+df
    3c+a+W+b+ca 3d+a+W+b+ca 3c+a+W+b+ak 3d+a+W+b+ak 3c+a+W+b+bw+i 3d+a+W+b+bw+i 3c+a+W+b+bw+m
    3d+a+W+b+bw+m 3c+a+X+b+bw+i 3d+a+X+b+bw+i 3c+a+X+b+ak 3d+a+X+b+ak 3c+a+Y+b+bw+i 3d+a+Y+b+bw+i
    3c+a+Z+b+af 3d+a+Z+b+af 3c+a+Z+b+bw+m 3d+a+Z+b+bw+m 3c+a+Z+b+ft+m 3d+a+Z+b+ft+m 7H+b+ft+m
    7T+b+ak 7W+b+dh+i 7Y+b+dh+i 7A+b+h+cc+dh 7eh+S+b+bw+i ecm+u eew+u 3c+a+SHARP+S 3d+a+lg
    3c+a+A+b+bw+m 3d+a+A+b+bw+m 3c+a+A+b+av+i 3d+a+A+b+av+i 3c+a+A+b+af+p+ca 3d+a+A+b+af+p+ca
    3c+a+A+b+af+p+df 3d+a+A+b+af+p+df 3c+a+A+b+af+p+av+i 3d+a+A+b+af+p+av+i 3c+a+A+b+af+p+bq
    3d+a+A+b+af+p+bq 3c+a+A+b+af+p+bw+m 3d+a+A+b+af+p+bw+m 3c+a+A+b+ee+p+ca 3d+a+A+b+ee+p+ca
    3c+a+A+b+ee+p+df 3d+a+A+b+ee+p+df 3c+a+A+b+ee+p+av+i 3d+a+A+b+ee+p+av+i 3c+a+A+b+ee+p+bq
    3d+a+A+b+ee+p+bq 3c+a+A+b+ee+p+bw+m 3d+a+A+b+ee+p+bw+m 3c+a+E+b+bw+m 3d+a+E+b+bw+m 3c+a+E+b+av+i
    3d+a+E+b+av+i 3c+a+E+b+bq 3d+a+E+b+bq 3c+a+E+b+af+p+ca 3d+a+E+b+af+p+ca 3c+a+E+b+af+p+df
    3d+a+E+b+af+p+df 3c+a+E+b+af+p+av+i 3d+a+E+b+af+p+av+i 3c+a+E+b+af+p+bq 3d+a+E+b+af+p+bq
    3c+a+E+b+af+p+bw+m 3d+a+E+b+af+p+bw+m 3c+a+I+b+av+i 3d+a+I+b+av+i 3c+a+I+b+bw+m 3d+a+I+b+bw+m
    3c+a+O+b+bw+m 3d+a+O+b+bw+m 3c+a+O+b+av+i 3d+a+O+b+av+i 3c+a+O+b+af+p+ca 3d+a+O+b+af+p+ca
    3c+a+O+b+af+p+df 3d+a+O+b+af+p+df 3c+a+O+b+af+p+av+i 3d+a+O+b+af+p+av+i 3c+a+O+b+af+p+bq
    3d+a+O+b+af+p+bq 3c+a+O+b+af+p+bw+m 3d+a+O+b+af+p+bw+m 3c+a+O+b+jv+p+ca 3d+a+O+b+jv+p+ca
    3c+a+O+b+jv+p+df 3d+a+O+b+jv+p+df 3c+a+O+b+jv+p+av+i 3d+a+O+b+jv+p+av+i 3c+a+O+b+jv+p+bq
    3d+a+O+b+jv+p+bq 3c+a+O+b+jv+p+bw+m 3d+a+O+b+jv+p+bw+m 3c+a+U+b+bw+m 3d+a+U+b+bw+m 3c+a+U+b+av+i
    3d+a+U+b+av+i 3c+a+U+b+jv+p+ca 3d+a+U+b+jv+p+ca 3c+a+U+b+jv+p+df 3d+a+U+b+jv+p+df
    3c+a+U+b+jv+p+av+i 3d+a+U+b+jv+p+av+i 3c+a+U+b+jv+p+bq 3d+a+U+b+jv+p+bq 3c+a+U+b+jv+p+bw+m
    3d+a+U+b+jv+p+bw+m 3c+a+Y+b+df 3d+a+Y+b+df 3c+a+Y+b+bw+m 3d+a+Y+b+bw+m 3c+a+Y+b+av+i
    3d+a+Y+b+av+i 3c+a+Y+b+bq 3d+a+Y+b+bq 3c+a+ts+LL 3d+a+ts+LL 3c+a+ts+V 3d+a+ts+V 3c+a+Y+b+sc
    3d+a+Y+b+sc 0jg+d+a+hi+b+cx dv dx+p+do dv+p+do dx+p+ga dv+p+ga dx+p+az dv+p+az 3c+a+hi+b+cx dv
    dx+p+do dv+p+do dx+p+ga dv+p+ga dx+p+az dv+p+az 3d+a+fw+b+cx dv dx+p+do dv+p+do dx+p+ga dv+p+ga
    3:3c+a+fw+b+cx dv dx+p+do dv+p+do dx+p+ga dv+p+ga 3:3d+a+ETA+b+cx ev ex+p+do ev+p+do ex+p+ga
    ev+p+ga ex+p+az ev+p+az 3c+a+ETA+b+cx ev ex+p+do ev+p+do ex+p+ga ev+p+ga ex+p+az ev+p+az
    3d+a+ks+b+cx dv dx+p+do dv+p+do dx+p+ga dv+p+ga dx+p+az dv+p+az 3c+a+ks+b+cx dv dx+p+do dv+p+do
    dx+p+ga dv+p+ga dx+p+az dv+p+az 3d+a+ib+b+cx dv dx+p+do dv+p+do dx+p+ga dv+p+ga 3:3c+a+ib+b+cx
    dv dx+p+do dv+p+do dx+p+ga dv+p+ga 3:3d+a+fq+b+cx dv dx+p+do dv+p+do dx+p+ga dv+p+ga dx+p+az
    dv+p+az 2:3c+a+fq+b+cv 2:e+p+do 2:hga 2:haz 3d+a+gm+b+cx dv dx+p+do dv+p+do dx+p+ga dv+p+ga
    dx+p+az dv+p+az 3c+a+gm+b+cx dv dx+p+do dv+p+do dx+p+ga dv+p+ga dx+p+az dv+p+az 3d+a+hi+b+do cga
    7fw+b+do cga 7ETA+b+do dga 7ks+b+do cga 7ib+b+do cga 7fq+b+do cga 7gm+b+do cga 3:7hi+b+cx+p+ax
    dv+p+ax dx+p+do+p+ax dv+p+do+p+ax dx+p+ga+p+ax dv+p+ga+p+ax dx+p+az+p+ax dv+p+az+p+ax
    3c+a+hi+b+cx+p+bi dv+p+bi dx+p+do+p+bi dv+p+do+p+bi dx+p+ga+p+bi dv+p+ga+p+bi dx+p+az+p+bi
    dv+p+az+p+bi 3d+a+ETA+b+cx+p+ax ev+p+ax ex+p+do+p+ax ev+p+do+p+ax ex+p+ga+p+ax ev+p+ga+p+ax
    ex+p+az+p+ax ev+p+az+p+ax 3c+a+ETA+b+cx+p+bi ev+p+bi ex+p+do+p+bi ev+p+do+p+bi ex+p+ga+p+bi
    ev+p+ga+p+bi ex+p+az+p+bi ev+p+az+p+bi 3d+a+gm+b+cx+p+ax dv+p+ax dx+p+do+p+ax dv+p+do+p+ax
    dx+p+ga+p+ax dv+p+ga+p+ax dx+p+az+p+ax dv+p+az+p+ax 3c+a+gm+b+cx+p+bi dv+p+bi dx+p+do+p+bi
    dv+p+do+p+bi dx+p+ga+p+bi dv+p+ga+p+bi dx+p+az+p+bi dv+p+az+p+bi 3d+a+hi+b+VRACHY ccp cdo+p+ax
    cax cga+p+ax 2:caz e+p+ax 3c+a+hi+b+VRACHY ccp cdo cga cbi 3KORONIS 3bi 3cx 3az 3ho+p+az
    3d+a+ETA+b+do+p+ax dax dga+p+ax 2:daz f+p+ax 3c+a+fw+b+do cga 7ETA+b+do dga dbi 4x+p+do 8ga 8az
    3d+a+ks+b+VRACHY ccp cho+p+do hga 3:caz cho+p+az 3c+a+ks+b+VRACHY ccp cdo cga 2:4v+p+do 8ga 8az
    3d+a+fq+b+VRACHY ccp cho+p+do hga 7wj+b+cx dv 7fq+b+az cho+p+az 3c+a+fq+b+VRACHY ccp cdo cga
    7wj+b+cv 3ho+p+do 8ga 3do 3:4+a+gm+b+do+p+ax cax cga+p+ax 2:caz e+p+ax 3c+a+ib+b+do cga 7gm+b+do
    cga cbi 3ga 3cv 2:0EN+wi 1M+wi 1N+kk 1M+kk 0THREE-PER-EM+kk 0FOUR-PER-EM+kk 0SIX-PER-EM+kk
    0FIGURE+kk 0bc+kk 0THIN+kk 0HAIR+kk 0du+WIDTH+kk 9NON-JOINER 9xv 0or+aj 0sk+aj 0op
    0NON-BREAKING+op 0FIGURE+in 0EN+in 1M+in 0y+fa 0l+r+ft 2hl+ft 0o+ce+dg+aj 0h+ce+dg+aj
    0ce+LOW-9+dg+aj 3HIGH-REVERSED-9+dg+aj 0o+l+dg+aj 0h+l+dg+aj 0l+LOW-9+dg+aj
    2HIGH-REVERSED-9+dg+aj 0DAGGER 0l+DAGGER 0mb 0ec+mb 0bs+bw+LEADER 1n+bw+LEADER 0y+pd
    0HYPHENATION+ri 0ft+ei 0ux+ei 0or+EMBEDDING 0sk+EMBEDDING 0POP+DIRECTIONAL+FORMATTING
    0or+OVERRIDE 0sk+OVERRIDE 0NARROW+NO-BREAK+kk 0PER+MILLE+g 4ik+ac+g 0sj 0l+sj 0dr+sj 0aq+sj
    3l+sj 3dr+sj 0vk 0ce+dd+eo+dg+aj 3cd+eo+dg+aj 0REFERENCE+aj 0l+cy+aj 0qz 0pm 0UNDERTIE 0lj+TIE
    0vk+INSERTION+ri 0ASTERISM 0op+mb 0gq+oh 0o+an+ae+b+QUILL 0h+an+ae+b+QUILL 0l+eb+aj 0eb+cy+aj
    0cy+eb+aj 0TIRONIAN+g+ET 0aq+PILCROW+g 0x+q+mb 2k+mb 0hl+ch 0aq+ix 0CLOSE+UP
    0bn+ASTERISKS+ALIGNED+ns 0ss+mi+g 0SWUNG+in 0ba+UNDERTIE 0FLOWER+bc+aj 0t+bw+bc 0jq+sj 0at+bw+bc
    1y+bw+bc 0bn+bw+bc 0at+bw+aj 0ey+fn 0TRICOLON 0r+at+cu 0be+mm+kk 0vd+xv 0FUNCTION+APPLICATION
    0INVISIBLE+as aei abx 2:0or+ISOLATE 0sk+ISOLATE 0xl+STRONG+ISOLATE 0POP+DIRECTIONAL+ISOLATE
    0INHIBIT+SYMMETRIC+SWAPPING 0ACTIVATE+SYMMETRIC+SWAPPING 0INHIBIT+jf+e+SHAPING
    0ACTIVATE+jf+e+SHAPING 0NATIONAL+br+SHAPES 1OMINAL+br+SHAPES 0gt+du 3es+d+a+I 3:3at 4y 3ev 3au
    4r 3cj 3bx+g 3mi 3fl+g 3o+bd 3h+bd 3es+d+a+N 0ps+du 3bs 4n 3t 3at 4y 3ev 3au 4r 3cj 3bx+g 3mi
    3fl+g 3o+bd 3h+bd 2:0es+ps+d+a+A aE aO aX avv aH aK aL aM aN aP aS aT 4:0EURO-CURRENCY+g 0hs+g
    0CRUZEIRO+g 0FRENCH+FRANC+g 0LIRA+g 0MILL+g 0NAIRA+g 0PESETA+g 0RUPEE+g 0WON+g 0NEW+SHEQEL+g
    0DONG+g 0EURO+g 0KIP+g 0TUGRIK+g 0DRACHMA+g 0GERMAN+PENNY+g 0PESO+g 0GUARANI+g 0AUSTRAL+g
    0HRYVNIA+g 0CEDI+g 0LIVRE+TOURNOIS+g 0SPESMILO+g 0TENGE+g 0INDIAN+RUPEE+g 0TURKISH+LIRA+g
    0NORDIC+aj+g 0MANAT+g 0RUBLE+g 0LARI+g 0BITCOIN+g 0SOM+g 10:0ck+o+cf+i 3h+cf+i 3eh+r+ft+go
    4t+r+ft+go 3dm+f+i 3ic+f+i 3o+f+i 3h+f+i 3dh+go 3ic+dh+go 3dm+dh+go 3t+cu+i 3at+cu+i
    3ENCLOSING+ao en ddi dao+oy 3o+h+f+i 3ENCLOSING+SCREEN dKEYCAP dUPWARD+bb+ah 3hg+gj+go 3l+r+u+go
    3ANNUITY+w 3dr+UNDERDOT 3WIDE+BRIDGE+i 3q+f+go 3eh+l+gj+go 3k+cf+b+dk+aa 3q+cf+b+dk+aa 3o+f+m
    3h+f+m 3ch+i 10:0ACCOUNT+OF 1DDRESSED+TO+qn+SUBJECT 0gn+c+C 0DEGREE+CELSIUS 0cz+ft+w 0CARE+OF
    2DA+UNA 0EULER+CONSTANT 0SCRUPLE 0DEGREE+FAHRENHEIT 0hn+d+G 3c+H 0py+c+H 0gn+c+H
    0PLANCK+CONSTANT f+cw+bn+PI 0hn+c+I 0py+c+I 0hn+c+L 3d+L 0L+B+fa+w 0gn+c+N 0NUMERO+g
    0np+RECORDING+COPYRIGHT 0hn+c+P 0gn+c+P 5Q 0hn+c+R 0py+c+R 0gn+c+R 0PRESCRIPTION+TAKE 0RESPONSE
    0SERVICE+aj 0iy+g 0TRADE+aj+g 0VERSICLE 0gn+c+Z 0OUNCE+g 1HM+g 0ba+OHM+g 0py+c+Z 0bh+jg+d+a+ks
    0KELVIN+g 0ANGSTROM+g 0hn+c+B 0py+c+C 0ESTIMATED+w 0hn+d+E 3c+E 5F 0bh+c+F 0hn+c+M 3d+O 0da+w
    0BET+w 0ny+w 0DALET+w 0INFORMATION+SOURCE 0bp+c+Q 0FACSIMILE+g 0gn+d+PI 5kg 3c+kg 5PI
    3N-ARY+SUMMATION 0bh+dt+c+G 8L 0aq+dt+c+L 0bh+dt+c+Y 0gn+qd+c+D 6d+D 8E 8I 8J 0PROPERTY+ft
    0bh+ms 0PER+g 0AKTIESELSKAB 0bh+d+F 0w+qm+SAMARITAN+SOURCE 0VULGAR+gq+bs+SEVENTH dNINTH dTENTH
    drk bn+ta bs+FIFTH bn+FIFTHS at+FIFTHS aat+FIFTHS abs+SIXTH aay+SIXTHS abs+hb at+jo aay+jo bu+jo
    0gq+NUMERATOR+bs 0ROMAN+oc+bs an 9t 9at ay 9ev 9au ar 9cj 9ik 9oo 9me 9hk 9bs+ab 9ay+ab 9bs+ac
    0d+ROMAN+oc+bs cn bt bat cy bev bau cr bcj bik boo bme bhk bbs+ab bay+ab bbs+ac
    0ROMAN+oc+bs+ac+C+D 9ay+ac 9ik+ac 9aq+bs+ab 0es+d+a+aq+C 0ROMAN+oc+ev+LATE+e 9hk+EARLY+e cac
    9bs+ab+ac 0VULGAR+gq+du+ta 0bh+br+bn 6t 5:0q+f 0ap+f 0k+f 0aa+f 0o+h+f 0UP+cb+f 0fe+gw+f 3fz+f
    1v+fz+f 3gw+f 0q+f+b+u 0k+f+b+u 0q+pv+f 0k+pv+f 0q+bn+HEADED+f 0ap+bn+HEADED+f 0k+bn+HEADED+f
    0aa+bn+HEADED+f 0q+f+b+gu 0k+f+b+gu 0q+f+kp+fa 0ap+f+kp+fa 0k+f+kp+fa 0aa+f+kp+fa
    0UP+cb+f+b+BASE 0q+f+b+av 0k+f+b+av 0q+f+b+sc 0k+f+b+sc 0o+h+pv+f 4f+b+u 0aa+vh+f 1p+f+b+TIP+q
    bk 1a+f+b+TIP+q bk 0k+f+b+fy+aa 0aa+f+b+fy+q 0dm+pw+sy+f 0ic+pw+sy+f 0fe+gw+f+TO+eh+fa
    0q+f+TO+fa+cw+k+f+TO+fa 0dm+ed+ao+f 0ic+ed+ao+f 0q+cf+b+dk+ap ba 0ap+cf+b+dk+k bq 0k+cf+b+dk+ap
    ba 0aa+cf+b+dk+k bq 0k+f+cw+q+f 0ap+f+q+OF+aa+f 0q+f+cw+k+f 2uw+km 0ap+uw+km 0k+uw+km 0aa+uw+km
    0q+cf+cw+k+cf 0k+cf+cw+q+cf 0q+l+f+b+u 0o+h+l+f+b+u 0k+l+f+b+u 0q+l+f 0ap+l+f 0k+l+f 0aa+l+f
    0o+h+l+f 0UP+cb+l+f 0fe+gw+l+f 3fz+l+f 1v+fz+l+f 3gw+l+f 0q+dr+f 0k+dr+f 0q+SQUIGGLE+f
    0k+SQUIGGLE+f 0ap+f+b+l+u 1a+f+b+l+u 0q+nf+f 0ap+nf+f 0k+nf+f 0aa+nf+f 0q+f+TO+fa 0k+f+TO+fa
    0q+z+f 0ap+z+f 0k+z+f 0aa+z+f 1p+z+f+kp+fa 7ON+PEDESTAL i+b+y+fa lr+fa 5l+f 8+ON+PEDESTAL
    0k+z+f+kp+WALL 0fe+gw+f+TO+fy 1v+fz+f+TO+fy 0UP+cb+z+f 0h+f+b+d+ao 0aa+f+q+OF+ap+f 0t+k+km
    0q+f+b+r+u 0k+f+b+r+u 0o+h+f+b+r+u 0q+f+b+l+r+u 0k+f+b+l+r+u 0o+h+f+b+l+r+u 0q+OPEN-HEADED+f
    0k+OPEN-HEADED+f 0o+h+OPEN-HEADED+f 0qm+ALL 0COMPLEMENT 0wv+mk 0THERE+EXISTS 6DOES+ld+EXIST
    0EMPTY+SET 0INCREMENT 0NABLA 0nx+OF 0ld+AN+nx+OF 0d+nx+OF 0oz+AS+MEMBER
    0DOES+ld+CONTAIN+AS+MEMBER 0d+oz+AS+MEMBER 0ui+OF+PROOF 0N-ARY+la 6COPRODUCT 6SUMMATION 0mi+g
    0MINUS-OR-PLUS+g 0bw+bx 0pb+oh 0SET+mi 0ch+co 0dh+co 0mb+co 0an+ROOT 0CUBE+ROOT 0FOURTH+ROOT
    0PROPORTIONAL+TO 0tn 0h+eo 0eo 0yc+eo 0SPHERICAL+eo 0DIVIDES 1OES+ld+DIVIDE 0pn+TO 0ld+pn+TO
    0kv+p 3OR 0ej 0nr 0gr 0l+gr 0dr+gr 0CONTOUR+gr 0SURFACE+gr 0VOLUME+gr 0ic+gr 3CONTOUR+gr
    0dm+CONTOUR+gr 0THEREFORE 0BECAUSE 0RATIO 0PROPORTION 0bw+mi 0EXCESS 0GEOMETRIC+PROPORTION
    0HOMOTHETIC 0bq+co 0aq+bq 0ba+LAZY+S 0SINE+pv 0WREATH+la 0ld+bq 0mi+bq 0ASYMPTOTICALLY+bj+TO
    0ld+ASYMPTOTICALLY+bj+TO 0ok+bj+TO 3BUT+ld+ACTUALLY+bj+TO 0NEITHER+ok+NOR+ACTUALLY+bj+TO
    0kl+bj+TO 0ld+kl+bj+TO 0kl+bj+OR+bj+TO 0dr+bq 0ALL+bj+TO 0gk+TO 0GEOMETRICALLY+gk+TO
    0DIFFERENCE+il 0APPROACHES+qn+LIMIT 0GEOMETRICALLY+bj+TO 0ok+bj+TO+OR+qn+xu+OF
    0xu+OF+OR+ok+bj+TO 0hs+fl 0fl+hs 0dh+IN+bj+TO 3bj+TO 0CORRESPONDS+TO 0ESTIMATES 1QUIANGULAR+TO
    0gg+fl 0lg+bj+TO 0bj+TO+BY+DEFINITION 0yc+BY 0QUESTIONED+bj+TO 0ld+bj+TO 0IDENTICAL+TO
    0ld+IDENTICAL+TO 0STRICTLY+gk+TO 0aw+OR+bj+TO 1i+OR+bj+TO 1w+cw+bj+TO 1i+cw+bj+TO
    1w+BUT+ld+bj+TO 1i+BUT+ld+bj+TO 0MUCH+aw 6i 0il 0ld+gk+TO 3aw 4i 0NEITHER+aw+NOR+bj+TO
    9i+NOR+bj+TO 0aw+OR+gk+TO 1i+OR+gk+TO 0NEITHER+aw+NOR+gk+TO 9i+NOR+gk+TO 0aw+OR+ai 1i+OR+aw
    0NEITHER+aw+NOR+ai 9i+NOR+aw 0jk 1m 1k+OR+bj+TO 1m+OR+bj+TO 1k+OR+gk+TO 1m+OR+gk+TO
    0DOES+ld+PRECEDE 8SUCCEED 0hh+OF 0fj+OF 0ld+A+hh+OF 5fj+OF 0hh+OF+OR+bj+TO 0fj+OF+OR+bj+TO
    0NEITHER+A+hh+OF+NOR+bj+TO afj+OF+NOR+bj+TO 0hh+OF+b+ld+bj+TO 0fj+OF+b+ld+bj+TO 0MULTISET 8+gc
    9nr 0an+xu+OF 3yf+OF 3xu+OF+OR+bj+TO 3yf+OF+OR+bj+TO 3CAP 4UP 0cl+bx 3mi 3as 3pb+oh 3bw+co
    3dh+co 3ch+co 3fl 3in 0ea+bx 3mi 3as 3bw+co 0h+jx 0o+jx 0cb+jx 0UP+jx 0ASSERTION 0MODELS 0TRUE
    0FORCES 0dr+r+fa+h+nb 0l+r+fa+l+h+nb 0DOES+ld+PROVE 0ld+TRUE 0DOES+ld+FORCE
    0NEGATED+l+r+fa+l+h+nb 0jk+yy+RELATION 1m+yy+RELATION 0rf+pr+OF 0oz+AS+rf+pr 0rf+pr+OF+OR+bj+TO
    0oz+AS+rf+pr+OR+bj+TO 0yf+OF 0xu+OF 0MULTIMAP 0HERMITIAN+CONJUGATE+MATRIX 0INTERCALATE 0XOR
    0NAND 1OR 0h+eo+b+ARC 2ah 0N-ARY+kv+p 9OR 6ej 6nr 0di+co 0bw+co 0gg+co 0pb+as 0BOWTIE
    0o+rf+FACTOR+sz+la 0h+rf+FACTOR+sz+la 0o+sz+la 0h+sz+la 0aq+bq+fl 0ja+kv+OR 6p 0l+hh 2fj 2ej 2nr
    0PITCHFORK 0bj+p+pn+TO 0aw+b+bw 1i+b+bw 0lz+MUCH+aw 9i 0aw+bj+TO+OR+ai 1i+bj+TO+OR+aw
    0bj+TO+OR+aw ai 9jk am 0DOES+ld+PRECEDE+OR+bj 8SUCCEED+OR+bj 0ld+an+xu+OF+OR+bj+TO
    6yf+OF+OR+bj+TO 0an+xu+OF+OR+ld+bj+TO 3yf+OF+OR+ld+bj+TO 1w+BUT+ld+gk+TO 1i+BUT+ld+gk+TO
    0jk+BUT+ld+gk+TO 1m+BUT+ld+gk+TO 0ld+rf+pr+OF 0DOES+ld+CONTAIN+AS+rf+pr 0ld+rf+pr+OF+OR+bj+TO
    0DOES+ld+CONTAIN+AS+rf+pr+OR+bj 0r+pd 0MIDLINE+y+pd 0UP+h+cm+pd 0cb+h+cm+pd 0nx+OF+b+eh+y+u
    8r+fa+AT+ui+OF+y+u 0d+nx+OF+b+r+fa+AT+ui+OF+y+u 0nx+OF+b+bw+i 8ky 0d+nx+OF+b+ky 0nx+OF+b+fd
    8bn+y+STROKES 0oz+b+eh+y+u 5r+fa+AT+ui+OF+y+u 0d+oz+b+r+fa+AT+ui+OF+y+u 0oz+b+ky 0d+oz+b+ky
    0Z+pk+BAG+MEMBERSHIP 0DIAMETER+g 0ELECTRIC+f 0HOUSE 0UP+am 0cb+am 0PROJECTIVE 1ERSPECTIVE
    0WAVY+ft 0o+pz 0h+pz 0o+vo 0h+vo 0fx+h+CROP 3o+CROP 0pw+h+CROP 3o+CROP 0aq+ld+g 1n+kw 0ARC
    0SEGMENT 2CTOR 0iy+RECORDER 0POSITION+mw 0VIEWDATA+an 0PLACE+OF+INTEREST+g 0bh+ld+g 0WATCH
    0HOURGLASS 0pw+o+fy 3h+fy 0fx+o+fy 3h+fy 0pw+cc+gr 0fx+cc+gr 0FROWN 0SMILE 0UP+am+il+bn+y+BARS
    0OPTION+KEY 0ERASE+TO+qn+h 0X+IN+A+po+wc 0xy 0dd+eo+ae 0cd+eo+ae 0ERASE+TO+qn+o 0BENZENE+dh
    0CYLINDRICITY 0ALL+AROUND-PROFILE 0SYMMETRY 0TOTAL+RUNOUT 0DIMENSION+ORIGIN 0CONICAL+TAPER
    0SLOPE 0COUNTERBORE 7SINK 0APL+FUNCTIONAL+w+I-BEAM hSQUISH+wi hwi+bj kDIVIDE kdi kJOT kao
    hao+STILE kJOT hoh+fa iy+fa hwi+oh ly kaw li hq+VANE hk+VANE hwi+q+f kk+f hao+oy hcb+jx+fd
    hlg+STILE hwi+cb+vk klg hcb+jx+JOT hap+VANE hwi+ap+f hUP+jx+ky hDEL+STILE hwi+UP+vk kDEL
    hUP+jx+JOT haa+VANE hwi+aa+f hQUOTE+fd hlg+fd hdi+fd hJOT+fd hao+fd hUP+SHOE+JOT hQUOTE+wi
    hao+gg hwi+hs hUP+jx+ak hDEL+ak hgg+ak hJOT+ak hao+ak hcb+SHOE+STILE ho+SHOE+STILE hbq+ak hai+ak
    hdp+fa hDEL+bq hZILDE hSTILE+bq hix+fd hwi+ld+bj keb hcb+vk+bq hUP+vk+bq hks hwj hgm hhi+fd
    hfw+fd hks+fd hgm+fd hhi 0ld+se+aj 0h+eo+b+aa+vh+f 0SHOULDERED+ed+wc 0BELL+w 0r+ft+b+ad+bw
    0INSERTION+w 0CONTINUOUS+UNDERLINE+w 0DISCONTINUOUS+UNDERLINE+w 0EMPHASIS+w 0COMPOSITION+w
    0z+an+b+cz+r+ft 0ENTER+w 0ALTERNATIVE+KEY+w 0HELM+w 0cl+y+fa+b+NOTCH 3ah+cb
    0BROKEN+ao+b+NORTHWEST+f 0UNDO+w 0MONOSTABLE+w 0HYSTERESIS+w 0OPEN-CIRCUIT-OUTPUT+H-TYPE+w
    kL-TYPE+w 0PASSIVE-PULL-DOWN-OUTPUT+w dUP-OUTPUT+w 0DIRECT+CURRENT+w+e+bn 0SOFTWARE-FUNCTION+w
    0APL+FUNCTIONAL+w+wi 0DECIMAL+ei+KEY+w 0PREVIOUS+PAGE 0NEXT+PAGE 0PRINT+SCREEN+w 0CLEAR+SCREEN+w
    0o+bd+cr+av 5mv 5bt+av 0h+bd+cr+av 5mv 5bt+av 0o+an+ae+cr+fy 8mv 8bt+fy 0h+an+ae+cr+fy 8mv
    8bt+fy 0o+ja+ae+cr+av 8ad+PIECE 8bt+av 0ja+ae+mv 0h+ja+ae+cr+av 8ad+PIECE 8bt+av 0gr+mv 0y+ft+mv
    0cr+o+OR+bt+h+ja+ae+gi 3h+OR+bt+o+ja+ae+gi 0SUMMATION+pw afx 0pw+an+ae 0fx+an+ae 8+cw+pw+an+ae
    0RADICAL+w+fx 0o+r+wc+ft 0h+r+wc+ft 0y+SCAN+LINE-1 c3 c7 c9 0DENTISTRY+w+bl+r+p+pw+h jfx+h hb+ao
    fcb+p+y+b+ao fUP+p+y+b+ao fr+b+ah fcb+p+y+b+ah fUP+p+y+b+ah fr+p+pv fcb+p+y+b+pv fUP+p+y+b+pv
    fcb+p+y fUP+p+y fr+p+pw+o jfx+o 0an+FOOT 0RETURN+w 0EJECT+w 0r+ft+mv 0METRICAL+ee ah+cw+et
    at+cw+eh ah+cw+bn+SHORTS 9bn+SHORTS+cw+eh jJOINED 9TRISEME aETRASEME 9PENTASEME 0qh+GROUND 0FUSE
    0pw+bd 0fx+bd 0pw+ja+ae 0fx+ja+ae 0pw+he+jr+ae 0fx+he+jr+ae 0z+TRAPEZIUM 0BENZENE+dh+b+ao
    0STRAIGHTNESS 0FLATNESS 0AC+CURRENT 0ELECTRICAL+ej 0DECIMAL+EXPONENT+w 0x+cd+l+ah 2dd+l+ah
    2ge+l+ah 3b+l+ah 2cd+l+ah+b+r+fa 2dd+l+ah+b+r+fa 2cd+ah+b+l+r+fa 0ALARM+CLOCK 0STOPWATCH
    0TIMER+CLOCK 0HOURGLASS+b+FLOWING+SAND 0x+be+dd+ah 5cd+ah 5ge+ah 6b+ah 0l+r+fa 0x+an+qm+fb
    3o+qm+RECORD 0POWER+w 6ON-OFF+w 8+w 6SLEEP+w 0OBSERVER+EYE+w 0w+qm+NULL 5START+OF+HEADING eTEXT
    5ui+OF+TEXT cRANSMISSION 5ENQUIRY 5ACKNOWLEDGE 5BELL 6ACKSPACE 5y+TABULATION 5ft+FEED
    5r+TABULATION 5e+FEED 5CARRIAGE+RETURN 5SHIFT+OUT bIN 5DATA+LINK+ESCAPE 6EVICE+CONTROL+bs ln kt
    kat 5ie+ACKNOWLEDGE 5SYNCHRONOUS+IDLE 5ui+OF+TRANSMISSION+dw 5CANCEL 5ui+OF+be 5SUBSTITUTE
    5ESCAPE 5FILE+ei 5GROUP+ei 5RECORD+ei 5UNIT+ei 5kk 5DELETE 0BLANK+w 0ed+wc 0w+qm+NEWLINE
    5DELETE+e+bn 5SUBSTITUTE+e+bn 1a:0OCR+av 4CHAIR 4FORK 4ba+FORK 4BELT+BUCKLE 5OW+TIE
    5RANCH+BANK+IDENTIFICATION 4AMOUNT+OF+se 4in 4CUSTOMER+ACCOUNT+cq 4l+oy 16:0cl+br+bs 7n 6t 6at
    7y 6ev 6au 7r 6cj 3cq+ik 6oo 6me 6pu 7f 6ml 6og 6my 6nh 6pj 6em 0si+br+bs 7n 6t 6at 7y 6ev 6au
    7r 6cj 3cq+ik 6oo 6me 6pu 7f 6ml 6og 6my 6nh 6pj 6em 0br+bs+hd+fb 4n+hd+fb 3t+hd+fb 3at+hd+fb
    4y+hd+fb 3ev+hd+fb 3au+hd+fb 4r+hd+fb 3cj+hd+fb 0cq+ik+hd+fb 3oo+hd+fb 3me+hd+fb 3pu+hd+fb
    4f+hd+fb 3ml+hd+fb 3og+hd+fb 3my+hd+fb 3nh+hd+fb 3pj+hd+fb 3em+hd+fb 0si+es+d+a+A aB aC aD aE aF
    aG aH aI aJ aK aL aM aN aO aP aQ aR aS aT aU aV aW aX aY aZ 0cl+es+c+a+A aB aC aD aE aF aG aH aI
    aJ aK aL aM aN aO aP aQ aR aS aT aU aV aW aX aY aZ 6d+a+A aB aC aD aE aF aG aH aI aJ aK aL aM aN
    aO aP aQ aR aS aT aU aV aW aX aY aZ 3br+du 0ie+cl+cq+oo 9me 9pu af 9ml 9og 9my 9nh 9pj 9em
    0l+cl+br+bs 9n 8t 8at 9y 8ev 8au 9r 8cj 5cq+ik 0ie+cl+br+du 0wc+DRAWINGS+bl+y cal+y cbl+r cal+r
    cbl+dr+in+y cal+dr+in+y cbl+dr+in+r cal+dr+in+r cbl+jq+in+y cal+jq+in+y cbl+jq+in+r cal+jq+in+r
    cbl+cb+p+h ccb+bl+p+h+al fal+p+h+bl cal+cb+p+h cbl+cb+p+o ccb+bl+p+o+al fal+p+o+bl cal+cb+p+o
    cbl+UP+p+h cUP+bl+p+h+al fal+p+h+bl cal+UP+p+h cbl+UP+p+o cUP+bl+p+o+al fal+p+o+bl cal+UP+p+o
    cbl+r+p+h cr+bl+p+h+al cUP+al+p+h+cb+bl ccb+al+p+h+UP+bl cr+al+p+h+bl ccb+bl+p+h+UP+al
    cUP+bl+p+h+cb+al cal+r+p+h cbl+r+p+o cr+bl+p+o+al cUP+al+p+o+cb+bl ccb+al+p+o+UP+bl cr+al+p+o+bl
    ccb+bl+p+o+UP+al cUP+bl+p+o+cb+al cal+r+p+o cbl+cb+p+y co+al+p+h+cb+bl ch+al+p+o+cb+bl
    ccb+bl+p+y+al fal+p+y+bl ch+bl+p+o+cb+al co+bl+p+h+cb+al cal+cb+p+y cbl+UP+p+y co+al+p+h+UP+bl
    ch+al+p+o+UP+bl cUP+bl+p+y+al fal+p+y+bl ch+bl+p+o+UP+al co+bl+p+h+UP+al cal+UP+p+y cbl+r+p+y
    co+al+p+h+r+bl ch+al+p+o+r+bl cr+bl+p+y+al cUP+al+p+cb+y+bl ccb+al+p+UP+y+bl cr+al+p+y+bl
    co+UP+al+p+h+cb+bl ch+UP+al+p+o+cb+bl co+cb+al+p+h+UP+bl ch+cb+al+p+o+UP+bl ccb+bl+p+UP+y+al
    cUP+bl+p+cb+y+al ch+bl+p+o+r+al co+bl+p+h+r+al cal+r+p+y cbl+l+in+y cal+l+in+y cbl+l+in+r
    cal+l+in+r cl+y er ccb+ce+p+h+l fl+p+h+ce cl+cb+p+h ccb+ce+p+o+l fl+p+o+ce cl+cb+p+o
    cUP+ce+p+h+l fl+p+h+ce cl+UP+p+h cUP+ce+p+o+l fl+p+o+ce cl+UP+p+o cr+ce+p+h+l el+p+h+ce cl+r+p+h
    cr+ce+p+o+l el+p+o+ce cl+r+p+o ccb+ce+p+y+l fl+p+y+ce cl+cb+p+y cUP+ce+p+y+l fl+p+y+ce cl+UP+p+y
    cr+ce+p+y+l el+p+y+ce cl+r+p+y cbl+ARC+cb+p+h oo jUP+p+o oh fcm+cr+h+TO+bt+o lo+TO+bt+h ifn fo
    fUP fh fcb cal+o fUP fh fcb cbl+o+p+al+h fUP+p+al+cb cal+o+p+bl+h fUP+p+bl+cb 0cr+cc+dw
    0bt+bs+hb+dw 6ek+dw 3t+jo+dw 3cc+dw 3ay+jo+dw 3t+ig+dw 3au+jo+dw 0hd+dw 0o+au+jo+dw 2t+ig+dw
    2ay+jo+dw 2cc+dw 2t+jo+dw 2bs+ek+dw 5hb+dw 0h+cc+dw 0bl+pq 1e+pq 0DARK+pq 0cr+bs+hb+dw
    0h+bs+hb+dw 0if+bt+o 6h 3cr+o 7+p+bt+o+p+bt+h dh acr+h+p+bt+o kh 6h 7+p+bt+o e+p+bt+h 0x+an
    0z+an 4+b+oe+wn 5ne+x+d+an 0an+b+y+wd 5r+wd 5ORTHOGONAL+CROSSHATCH+wd 5cr+o+TO+bt+h+wd
    8h+TO+bt+o+wd 6m+CROSSHATCH+wd 0x+d+an 0z+d+an 0x+po 0z+po 0x+r+po 0z+r+po 0x+PARALLELOGRAM
    0z+PARALLELOGRAM 0x+ge+ah 0z+ge+ah 0x+ge+d+ah 0z+ge+d+ah 0x+cd+ah 0z+cd+ah 0x+cd+d+ah 0z+cd+d+ah
    0x+cd+POINTER 0z+cd+POINTER 0x+gb+ah 0z+gb+ah 0x+gb+d+ah 0z+gb+d+ah 0x+dd+ah 0z+dd+ah 0x+dd+d+ah
    0z+dd+d+ah 0x+dd+POINTER 0z+dd+POINTER 0x+di 0z+di 4+ne+x+d+di 0FISHEYE 0kw 0z+ao 0ey+ao
    0ao+b+r+wd 0BULLSEYE 0x+ao 0ao+b+o+cc+x 5h+cc+x 5bt+cc+x 5cr+cc+x 8h+if+x 5ALL+BUT+cr+o+if+x
    0o+cc+x+ao 0h+cc+x+ao 0nz+mb 3z+ao 0cr+cc+nz+z+ao 0bt+cc+nz+z+ao 0cr+o+if+xg+ARC 3h+if+xg+ARC
    0bt+h+if+xg+ARC 3o+if+xg+ARC 0cr+cc+ao 0bt+cc+ao 0x+bt+h+ah 5o+ah 2cr+o+ah 5h+ah 0z+mb
    0an+b+o+cc+x 5h+cc+x 5cr+o+cm+cc+x 5bt+h+cm+cc+x 0z+an+b+r+BISECTING+ft 2ge+ah+b+bw
    0ge+ah+b+o+cc+x 8h+cc+x 0dc+ao 0z+an+b+cr+o+if 7bt+o+if ah+if 7cr+h+if 3o+b+cr+o+if 7bt+o+if
    ah+if 7cr+h+if 0cr+o+ah 3h+ah 0bt+o+ah 0z+be+an 0x+be+an 0z+be+d+an 0x+be+d+an 0bt+h+ah
    0x+SUN+b+RAYS 0CLOUD 0yx 0SNOWMAN 0COMET 0x+gg 0z+gg 0LIGHTNING 0THUNDERSTORM 0SUN
    0ASCENDING+NODE 0DESCENDING+NODE 0CONJUNCTION 0OPPOSITION 0x+iy 0z+iy 0xd+wc 5+b+se 8X 0mo
    0yx+b+RAIN+DROPS 0HOT+BEVERAGE 0z+SHOGI+PIECE 0x+SHOGI+PIECE 0SHAMROCK 0aq+bp+FLORAL+id+mb
    0x+o+bb+bk 2h+bb+bk 0z+o+bb+bk 2UP+bb+bk 2h+bb+bk 2cb+bb+bk 0SKULL+p+CROSSBONES 0CAUTION+g
    0RADIOACTIVE+g 0BIOHAZARD+g 0CADUCEUS 0ANKH 0ORTHODOX+fn 0zc+wj 0fn+OF+LORRAINE 6JERUSALEM
    0gg+p+tf 0FARSI+w 0ADI+SHAKTI 0HAMMER+p+SICKLE 0PEACE+w 0YIN+zw 0TRIGRAM+qm+HEAVEN bLAKE bFIRE
    bTHUNDER bWIND brm bph bqh 0WHEEL+OF+DHARMA 0z+FROWNING+cs 2iq+cs 0x+iq+cs 0z+SUN+b+RAYS
    0xl+ek+mn 0LAST+ek+mn 0MERCURY 0FEMALE+g 0qh 0MALE+g 0JUPITER 0SATURN 0URANUS 0NEPTUNE 0PLUTO
    0ARIES 0TAURUS 0GEMINI 0CANCER 0LEO 0VIRGO 0LIBRA 0SCORPIUS 1AGITTARIUS 0CAPRICORN 0AQUARIUS
    0PISCES 0z+hm+sb 5od 5zr 5om 5gs 5zm 0x+hm+sb 5od 5zr 5om 5gs 5zm 2SPADE+SUIT 0z+id+SUIT
    2di+SUIT 0x+CLUB+SUIT 0z+SPADE+SUIT 0x+id+SUIT 2di+SUIT 0z+CLUB+SUIT 0HOT+SPRINGS 0ek+ql 0hb+ql
    0BEAMED+hb+NOTES 7rv+NOTES 0MUSIC+FLAT+g 6NATURAL+g 6SHARP+g 0gw+SYRIAC+fn 0fz+SYRIAC+fn
    0UNIVERSAL+RECYCLING+w 0RECYCLING+w+qm+TYPE-1+rh k2+rh k3+rh k4+rh k5+rh k6+rh k7+rh
    fGENERIC+MATERIALS 0x+UNIVERSAL+RECYCLING+w 0RECYCLED+PAPER+w 0PARTIALLY-RECYCLED+PAPER+w
    1ERMANENT+PAPER+g 0WHEELCHAIR+w 0DIE+FACE-1 92 93 94 95 96 0z+ao+b+bw+h 8n+cu 0x+ao+b+z+bw+h
    7bn+z+cu 0tt+qm+zw 6YIN 0DIGRAM+qm+GREATER+zw aLESSER+YIN hzw aGREATER+YIN 0z+zh 0x+zh
    0HAMMER+p+PICK 0ANCHOR 0ko+SWORDS 0STAFF+OF+AESCULAPIUS 1CALES 0ALEMBIC 0FLOWER 0GEAR
    0STAFF+OF+HERMES 0ATOM+w 0FLEUR-DE-LIS 0rg+z+gg 0t+LINES+CONVERGING+h jo 0WARNING+g
    0ew+VOLTAGE+g 0DOUBLED+FEMALE+g 8MALE+g 0INTERLOCKED+FEMALE+p+MALE+g 0MALE+p+FEMALE+g 5b+u+g
    9p+MALE+p+FEMALE+g 0r+MALE+b+u+g 0y+MALE+b+u+g 0be+z+ao 3x+ao 3d+z+ao 0MARRIAGE+w 0DIVORCE+w
    0UNMARRIED+PARTNERSHIP+w 0COFFIN 0FUNERAL+URN 0NEUTER 0CERES 0PALLAS 0JUNO 0VESTA 0CHIRON
    0x+mn+LILITH 0SEXTILE 2MISEXTILE 0QUINCUNX 0SESQUIQUADRATE 1OCCER+zf 0BASEBALL 0ea+KEY
    0z+DRAUGHTS+MAN bsb 0x+DRAUGHTS+MAN bsb 0SNOWMAN+WITHOUT+SNOW 1UN+BEHIND+CLOUD 0RAIN 0x+SNOWMAN
    0THUNDER+CLOUD+p+RAIN 0bh+z+SHOGI+PIECE 3x+SHOGI+PIECE 0z+di+IN+an 0dq+LANES 0DISABLED+CAR
    0OPHIUCHUS 0PICK 0CAR+SLIDING 0HELMET+b+z+fn 0cl+dq+LANES 0CHAINS 0NO+ENTRY
    0ep+ONE-WAY+o+WAY+TRAFFIC 0x+TWO-WAY+o+WAY+TRAFFIC 0z+TWO-WAY+o+WAY+TRAFFIC 0x+o+LANE+MERGE
    0z+o+LANE+MERGE 0DRIVE+SLOW+g 0al+z+gb+ah 0o+fk+ENTRY 0ea+mo 0th+cm+IN+z+ao+IN+x+an 0x+TRUCK
    0RESTRICTED+o+ENTRY-1 j2 0ASTRONOMICAL+w+qm+URANUS 0al+ao+b+u+p+bn+cu+i 0PENTAGRAM
    0RIGHT-HANDED+INTERLACED+PENTAGRAM 0LEFT-HANDED+INTERLACED+PENTAGRAM 0ba+PENTAGRAM
    0x+fn+ON+SHIELD 0SHINTO+SHRINE 0CHURCH 1ASTLE 0HISTORIC+SITE 0GEAR+WITHOUT+HUB 5b+HANDLES
    0MAP+w+qm+LIGHTHOUSE 0ph 0yx+ON+GROUND 0FOUNTAIN 0zh+IN+HOLE 0FERRY 0SAILBOAT 0an+at+wn 0SKIER
    0ICE+SKATE 0kz+b+zf 0TENT 0ra+BANK+w 0HEADSTONE+GRAVEYARD+w 0FUEL+PUMP 0CUP+ON+x+an
    0z+zh+b+y+ad+x+STRIPE 0x+SAFETY+tz 0cr+BLADE+tz 0x+tz 0bt+BLADE+tz 0z+tz 2al+se+aj
    0iy+LOCATION+g 0TAPE+DRIVE 0qp 0ni 0hf+FIST 3kq 0VICTORY+kq 0WRITING+kq 0bt+h+PENCIL 0PENCIL
    0cr+h+PENCIL 0z+NIB 0x+NIB 0se+aj 0al+se+aj 0gc+X 0al+gc+X 0xd+X 0al+xd+X 0rg+jg+fn 0al+jg+fn
    0ed+cz+fn 0al+ed+cz+fn 0es+fn 0jl+z+es+fn 0rg+es+fn 0MALTESE+fn 0gg+OF+DAVID 0at+iw+ch 3xc+ch
    1l+at+xc+ch 1t+CLUB-SPOKED+ch 0x+at+dz+gg 0z+at+dz+gg 0SPARKLES 1TRESS+rg+z+gg 0cl+z+gg
    0ed+cz+x+gg 0x+cz+z+gg 0rg+x+gg 0al+rg+x+gg 0nl+gg 0jl+z+gg 0al+ch 0ed+cz+ch 0ar+jt+ch 3dz+x+gg
    6nl+gg 0ev+dz+x+gg 0ar+dz+RECTILINEAR+x+gg 1l+ar+dz+RECTILINEAR+x+gg 0me+dz+x+gg 0og+dz+ch
    0iw+ch 0ed+cz+iw+ch 0al+iw+ch 0ev+PETALLED+x+p+z+FLORETTE 0x+FLORETTE 0z+FLORETTE
    0ar+PETALLED+rg+x+FLORETTE 0cl+ed+cz+ar+dz+gg 0al+iw+nl+ch 0SNOWFLAKE
    0TIGHT+TRIFOLIATE+SNOWFLAKE 0al+CHEVRON+SNOWFLAKE 0SPARKLE 0al+SPARKLE 0xc+ch
    0ar+iw+PROPELLER+ch 1l+ar+iw+PROPELLER+ch 0fn+aj 0jl+z+ao 0ie+ea+fn+aj 0bt+h+DROP-SHADOWED+z+an
    0cr+h+DROP-SHADOWED+z+an 0bt+h+jl+z+an 0cr+h+jl+z+an 0x+eb+aj+bo 0z+eb+aj+bo 2cy+aj+bo
    0x+di+mi+z+X 0al+cy+aj+w 0bl+r+fa 1e+r+fa 0al+r+fa 3ce+bh+dp+dg+aj+bo 6dp+dg+aj+bo
    3l+bh+dp+dg+aj+bo 5dp+dg+aj+bo 3hl+ce+dp+dg+aj+bo 6l+dp+dg+aj+bo 0qa+STEM+ux+g+bo 0al+cy+aj+bo
    3id+cy+aj+bo 3x+id 0bp+al+x+id+mb 0FLORAL+id 0bp+FLORAL+id+mb 1e+o+bd+bo 3h+bd+bo
    3FLATTENED+o+bd+bo dh+bd+bo 3dd+eo+ae+bo 3cd+eo+ae+bo 0al+dd+eo+dg+aj+bo 3cd+eo+dg+aj+bo
    3dd+eo+ae+bo 3cd+eo+ae+bo 0bl+o+he+jr+ae+bo 3h+he+jr+ae+bo 1e+o+ja+ae+bo 3h+ja+ae+bo
    0DINGBAT+ie+cl+br+bs in ht hat iy hev hau ir hcj ecq+ik 8cl+dt+br+bs in ht hat iy hev hau ir hcj
    ecq+ik 8ie+cl+dt+br+bs ln kt kat ly kev kau lr kcj hcq+ik 0al+WIDE-HEADED+k+f 3bx+g 3mi+g 3pb+g
    3fv+fz+f 3k+f 3fe+fz+f 0DRAFTING+ri+k+f 0al+ROUND-TIPPED+k+f 0v+k+f 0al+v+k+f 0nf+v+k+f
    0al+nf+v+k+f 0x+k+f 0THREE-D+TOP-LIGHTED+k+am 8BOTTOM-LIGHTED+k+am 0x+k+am 0al+x+qa+aa+p+k+f
    9p+p+k+f 0SQUAT+x+k+f 0al+CONCAVE-POINTED+x+k+f 0RIGHT-SHADED+z+k+f 0LEFT-SHADED+z+k+f
    0BACK-TILTED+jl+z+k+f 0FRONT-TILTED+jl+z+k+f 0al+bt+rj+z+k+f 3cr+rj+z+k+f 0qf+bt+rj+z+k+f 0ja+sc
    0qf+cr+rj+z+k+f 0cl+al+z+k+f 0WHITE-FEATHERED+k+f 0BLACK-FEATHERED+fv+fz+f gk+f gfe+fz+f
    0al+BLACK-FEATHERED+fv+fz+f jk+f jfe+fz+f 0TEARDROP-BARBED+k+f 0al+TEARDROP-SHANKED+k+f
    0WEDGE-TAILED+k+f 0al+WEDGE-TAILED+k+f 0OPEN-OUTLINED+k+f 0l+ja+sc 0t+DIMENSIONAL+eo
    0z+ah+ne+d+z+ah 1n 0ed+hh 3fj 0o+S-SHAPED+BAG+DELIMITER 0h+S-SHAPED+BAG+DELIMITER 0OR+b+bw+jh
    0hg+gj+PRECEDING+hh 0fj+PRECEDING+gj 0r+fa+b+y+u 0mm+nm+cm 0eh+pb 0mm+th+cm 0ea+kv+p 6OR
    0z+di+b+ro+bw 0p+b+bw 0nx+OF+OPENING+ap 0bt+h+fy+b+bw 0cr+o+fy+b+bw 0o+OUTER+JOIN 0h+OUTER+JOIN
    1d+OUTER+JOIN 0dc+UP+jx 3cb+jx 0o+p+h+l+nb 6jx 2MULTIMAP 0eh+h+jx 3o+jx 0UP+jx+b+ao+i
    0kw+DIVIDED+BY+y+RULE 0z+CONCAVE-SIDED+di i+b+q+TICK lk+TICK 2an+b+q+TICK 7k+TICK 0mm+o+z+an+ae
    3h+z+an+ae 3o+eo+ae 3h+eo+ae 3o+l+eo+ae 3h+l+eo+ae 3o+z+he+jr+ae 3h+z+he+jr+ae 3o+FLATTENED+bd
    3h+FLATTENED+bd 0ap+jq+f 1a+jq+f 0dm+GAPPED+ao+f 0ic+GAPPED+ao+f 0h+f+b+cl+bx 0eh+q+f 3k+f
    3o+h+f 3q+l+f 3k+l+f 3o+h+l+f 3q+f+kp+fa 3k+f+kp+fa 3q+l+f+kp+fa 3k+l+f+kp+fa 5SQUIGGLE+f
    0BRAILLE+PATTERN+BLANK gDOTS-1 l2 l12 l3 l13 l23 l123 l4 l14 l24 l124 l34 l134 l234 l1234 l5 l15
    l25 l125 l35 l135 l235 l1235 l45 l145 l245 l1245 l345 l1345 l2345 l12345 l6 l16 l26 l126 l36
    l136 l236 l1236 l46 l146 l246 l1246 l346 l1346 l2346 l12346 l56 l156 l256 l1256 l356 l1356 l2356
    l12356 l456 l1456 l2456 l12456 l3456 l13456 l23456 l123456 l7 l17 l27 l127 l37 l137 l237 l1237
    l47 l147 l247 l1247 l347 l1347 l2347 l12347 l57 l157 l257 l1257 l357 l1357 l2357 l12357 l457
    l1457 l2457 l12457 l3457 l13457 l23457 l123457 l67 l167 l267 l1267 l367 l1367 l2367 l12367 l467
    l1467 l2467 l12467 l3467 l13467 l23467 l123467 l567 l1567 l2567 l12567 l3567 l13567 l23567
    l123567 l4567 l14567 l24567 l124567 l34567 l134567 l234567 l1234567 l8 l18 l28 l128 l38 l138
    l238 l1238 l48 l148 l248 l1248 l348 l1348 l2348 l12348 l58 l158 l258 l1258 l358 l1358 l2358
    l12358 l458 l1458 l2458 l12458 l3458 l13458 l23458 l123458 l68 l168 l268 l1268 l368 l1368 l2368
    l12368 l468 l1468 l2468 l12468 l3468 l13468 l23468 l123468 l568 l1568 l2568 l12568 l3568 l13568
    l23568 l123568 l4568 l14568 l24568 l124568 l34568 l134568 l234568 l1234568 l78 l178 l278 l1278
    l378 l1378 l2378 l12378 l478 l1478 l2478 l12478 l3478 l13478 l23478 l123478 l578 l1578 l2578
    l12578 l3578 l13578 l23578 l123578 l4578 l14578 l24578 l124578 l34578 l134578 l234578 l1234578
    l678 l1678 l2678 l12678 l3678 l13678 l23678 l123678 l4678 l14678 l24678 l124678 l34678 l134678
    l234678 l1234678 l5678 l15678 l25678 l125678 l35678 l135678 l235678 l1235678 l45678 l145678
    l245678 l1245678 l345678 l1345678 l2345678 l12345678 0k+is+f+b+r+u 9l+r+u 0q+l+f+b+r+u
    0k+l+f+b+r+u 0o+h+l+f+b+r+u 0k+is+f+kp+fa 0q+l+f+kp+fa 0k+l+f+kp+fa 0aa+f+b+y+u 1p+f+b+y+u 3dr+f
    1a+dr+f 0q+l+in+f 0k+l+in+f 0q+dr+in+f 0k+dr+in+f 2is+dr+in+f 2f+b+ey+STEM 0ap+f+TO+fa
    1a+f+TO+fa 0k+f+b+gu+b+r+u bl+r+u 2is+f+b+gu b+b+r+u el+r+u 0q+xa 0k+xa 0q+l+xa 0k+l+xa
    0q+f+TO+x+di 0k+f+TO+x+di 0q+f+kp+fa+TO+x+di 0k+f+kp+fa+TO+x+di 0fe+gw+p+fv+fz+f 3fz+p+fv+gw+f
    3gw+f+b+av 3fz+f+b+av 1v+fz+f+b+av 3gw+f+b+av 1e+gw+f+p+fe+fz+f 3fz+f+p+fv+fz+f
    1v+fz+f+p+fv+gw+f 3gw+f+p+fe+gw+f 0nm+cm+dq+th+cm 0th+cm+dq+nm+cm 0fv+fz+f+dq+fe+fz+f
    1e+fz+f+dq+fv+fz+f 0th+cm+dq+fe+fz+f 0nm+cm+dq+fv+fz+f 0fe+fz+f+dq+fe+gw+f 3gw+f+dq+fe+fz+f
    0pv+f+bb+DIRECTLY+h 0f+bb+k+THEN+CURVING+ap la 5aa+THEN+CURVING+q lk 0RIGHT-SIDE+ARC+ic+f
    0LEFT-SIDE+ARC+dm+f 0pw+ARC+dm+f 0fx+ARC+dm+f 0pw+ARC+ic+f+b+mi 7dm+f+b+bx
    0bt+h+SEMICIRCULAR+ic+f 3o+SEMICIRCULAR+dm+f 0dm+fk+ao+f 0ic+fk+ao+f 0k+f+i+et+q+f 0q+f+i+et+k+f
    0et+k+f+i+q+f 0k+f+b+bx+m 0q+f+b+bx+m 0k+f+ka+X 0o+h+f+ka+d+ao 0ap+is+f+kp+d+ao
    0o+dk+UP+h+dk+cb+cf 5cb+h+dk+UP+cf 0UP+dk+h+cb+dk+o+cf 6o+cb+dk+h+cf 0o+dk+UP+h+dk+UP+cf
    0UP+dk+h+cb+dk+h+cf 0o+dk+cb+h+dk+cb+cf 0UP+dk+o+cb+dk+o+cf 0q+cf+b+dk+UP+TO+fa
    0k+cf+b+dk+UP+TO+fa 0ap+cf+b+dk+h+TO+fa 1a+cf+b+dk+h+TO+fa 0q+cf+b+dk+cb+TO+fa
    0k+cf+b+dk+cb+TO+fa 0ap+cf+b+dk+o+TO+fa 1a+cf+b+dk+o+TO+fa 0q+cf+b+dk+UP+kp+fa
    0k+cf+b+dk+UP+kp+fa 0ap+cf+b+dk+h+kp+fa 1a+cf+b+dk+h+kp+fa 0q+cf+b+dk+cb+kp+fa
    0k+cf+b+dk+cb+kp+fa 0ap+cf+b+dk+o+kp+fa 1a+cf+b+dk+o+kp+fa 0q+cf+b+dk+UP+i+q+cf+b+dk+cb
    0ap+cf+b+dk+o+qr+ap+cf+b+dk+h 0k+cf+b+dk+UP+i+k+cf+b+dk+cb 0aa+cf+b+dk+o+qr+aa+cf+b+dk+h
    0q+cf+b+dk+UP+i+k+cf+b+dk+UP acb+i+k+cf+b+dk+cb 0k+cf+b+dk+UP+i+q+cf+b+dk+UP acb+i+q+cf+b+dk+cb
    0q+cf+b+dk+UP+i+eh+in acb+m+eh+in 0k+cf+b+dk+UP+i+eh+in acb+m+eh+in
    0ap+cf+b+dk+o+qr+aa+cf+b+dk+h 1a+cf+b+dk+o+qr+ap+cf+b+dk+h 0h+l+f+b+oe+qx 0fl+g+i+k+f
    0bq+co+i+k+f 0q+f+i+bq+co 0k+f+i+bq+co 6kl+bj+TO 0aw+i+q+f 0q+f+ka+aw 0ai+i+k+f 0hh+i+k+f
    0q+f+ka+hh 0fj+i+q+f 0o+FISH+gu 0h+FISH+gu 0UP+FISH+gu 0cb+FISH+gu 0dr+r+fa+DELIMITER 0Z+pk+SPOT
    5TYPE+hs 0o+z+ja+ae 0h+z+ja+ae 0o+z+bd 0h+z+bd 0Z+pk+o+xu+ae 5h+xu+ae 5o+BINDING+ae
    5h+BINDING+ae 0o+an+ae+b+fd 0h+an+ae+b+fd 0o+an+ae+b+TICK+IN+pw+fy 0h+an+ae+b+TICK+IN+fx+fy
    0o+an+ae+b+TICK+IN+fx+fy 0h+an+ae+b+TICK+IN+pw+fy 0o+eo+ae+b+bw 0h+eo+ae+b+bw 0o+ARC+aw+ae
    0h+ARC+ai+ae 0l+o+ARC+ai+ae 2h+ARC+aw+ae 0o+x+he+jr+ae 0h+x+he+jr+ae 0ey+FENCE 0r+vh+ft
    0yc+eo+OPENING+o 0h+eo+ha+b+an 0yc+h+eo+b+bw 0eo+b+S+jh 0ca+eo 0SPHERICAL+eo+OPENING+o lUP
    0bh+eo 0aq+eo 0eo+b+fd 0aq+eo+b+fd 0jp+eo+OPENING+UP ecb 0yc+eo+b+ed+ARM+ENDING+IN+f+bb+UP+p+h
    zo ucb+p+h zo uh+p+UP uo+p+UP uh+p+cb uo+p+cb 0aq+EMPTY+SET 0EMPTY+SET+b+ky cd+ao+i ch+f+i
    co+f+i 0ao+b+y+fa 0cl+r+fa 3pn 3hg+gj 3zn 0ao+DIVIDED+BY+y+fa+p+pw+cc+DIVIDED+BY+r+fa
    3b+SUPERIMPOSED+X 0cl+ANTICLOCKWISE-ROTATED+pb+g 0UP+f+ka+ao 0cl+z+mb 3mb 3aw 4i
    0ao+b+d+ao+TO+qn+h 5bn+y+STROKES+TO+qn+h 0ea+nm+cm+oh 3th+cm+oh 3ch 3d+ao 3an 0bn+JOINED+SQUARES
    0ah+b+bw+i 5fd 0S+IN+ah 0ah+b+SERIFS+AT+fx 0h+ah+i+o+ah 0o+ah+qr+r+fa 0r+fa+qr+h+ah
    0BOWTIE+b+o+cc+x 9h+cc+x 0x+BOWTIE 0as+b+o+cc+x 5h+cc+x 0z+HOURGLASS 0x+HOURGLASS
    0o+WIGGLY+FENCE 0h+WIGGLY+FENCE 0o+l+WIGGLY+FENCE 0h+l+WIGGLY+FENCE 0INCOMPLETE+tn 0TIE+cw+tn
    0tn+NEGATED+b+r+fa 0DOUBLE-ENDED+MULTIMAP 0an+b+CONTOURED+OUTLINE 0INCREASES+AS 0SHUFFLE+la
    0fl+g+p+gz+pn c+b+bq+i 0IDENTICAL+TO+p+gz+pn 0GLEICH+STARK 0THERMODYNAMIC 0gb+ah+b+o+cc+x
    8h+cc+x 0x+di+b+cb+f 2kw 0z+ao+b+cb+f 0x+ao+b+cb+f 0ERROR-BARRED+z+an dx+an dz+di dx+di dz+ao
    dx+ao 0RULE-DELAYED 0hg+gj+co 0gj+b+ky 0hg+gj+b+y+u 0BIG+gj 4hg+gj 0l+bx 0dr+bx 1d+qa+eo+ae
    0cd+qa+eo+ae 0TINY 0MINY 0N-ARY+cl+bw+co ax+co 9as+co 6nr+co+b+bw fx 6an+ej+co 9nr+co
    0bn+kv+p+co 6OR+co 0N-ARY+as+co 0MODULO+bn+SUM 0SUMMATION+b+gr 0jq+gr+co 0FINITE+PART+gr
    0gr+b+l+u 3AVERAGE+b+oh 0CIRCULATION+FUNCTION 0dm+INTEGRATION
    0ft+INTEGRATION+b+RECTANGULAR+PATH+AROUND+POLE hSEMICIRCULAR+PATH+AROUND+POLE
    fld+INCLUDING+qn+POLE 0gr+AROUND+A+ri+co 0QUATERNION+gr+co 0gr+b+q+f+b+av 5as+g 5ej 5nr 5ky 5fd
    0JOIN 0dc+o+ah+co 0Z+pk+SCHEMA+COMPOSITION cPIPING dROJECTION 0bx+g+b+d+ao+i 7af+eu+i 7bq+i 8w+m
    8q+m 7ps+bn 7x+ah 0mi+g+b+dp+i 7bw+m 7th+cu 7nm+cu 0bx+g+IN+o+cc+ao 8h+cc+ao 0VECTOR+OR+fn+la
    0gc+g+b+bw+i 7fd 0sz+la+b+fx+fk 0SMASH+la 0gc+g+IN+o+cc+ao 8h+cc+ao 0cl+gc+g+b+af+eu
    0gc+g+IN+l+ao 0cl+pb+g 0bx+g+IN+ah 0mi+g+IN+ah 0gc+g+IN+ah 0INTERIOR+la 0RIGHTHAND+INTERIOR+la
    0Z+pk+RELATIONAL+COMPOSITION 0AMALGAMATION+OR+COPRODUCT 0ej+b+bw 0nr+b+mi+g 5ky 0ej+b+ky 6v+p
    0nr+b+kv+OR 3i+ej 0ej+i+nr 0nr+i+fa+i+ej 0ej+i+fa+i+nr 0nr+qr+p+JOINED+b+nr 0ej+qr+p+JOINED+b+ej
    0fk+nr+b+SERIFS 3ej+b+SERIFS 0l+an+ej 5nr 0fk+nr+b+SERIFS+p+SMASH+la 0kv+p+b+bw+i 3OR+b+bw+i
    0l+kv+p 5OR 0bn+INTERSECTING+kv+p jOR 0SLOPING+dc+OR bp 0kv+OR+OVERLAPPING+kv+p 3p+b+ad+STEM
    3OR+b+ad+STEM 3p+b+y+in 3OR+b+y+in 3p+b+l+ky 7fd 7l+fd 0d+VEE+b+fd 0kv+OR+b+l+ky afd
    0Z+pk+DOMAIN+ANTIRESTRICTION 5RANGE+ANTIRESTRICTION 0fl+g+b+bw+m 0IDENTICAL+b+bw+i
    0dr+y+fa+b+l+r+u adr+r+u 0bq+co+b+bw+i 8nm+cu 0uc+mi+uc 0CONGRUENT+b+bw+i 0fl+b+ch
    0kl+bj+TO+b+af+eu 0ok+bj+OR+bj+TO 0fl+g+i+bx+g 0bx+g+i+fl+g 0fl+g+i+bq+co 0l+hs+bj
    0bn+CONSECUTIVE+fl+SIGNS 0t+CONSECUTIVE+fl+SIGNS 0fl+g+b+bn+cu+i+p+bn+cu+m 0gk+b+at+cu+i
    0aw+b+ao+jh 1i+b+ao+jh 1w+b+eb+aj+i 1i+b+eb+aj+i 1w+OR+gz+bj+TO 1i+OR+gz+bj+TO
    1w+OR+gz+bj+TO+b+bw+jh 1i+OR+gz+bj+TO+b+bw+jh 1w+OR+gz+bj+TO+b+bw+i 1i+OR+gz+bj+TO+b+bw+i
    1w+OR+gz+bj+TO+b+bw+i+h 1i+OR+gz+bj+TO+b+bw+i+o 1w+OR+vi 1i+OR+vi 1w+p+of+ld+bj+TO
    1i+p+of+ld+bj+TO 1w+p+ld+vi 1i+p+ld+vi 1w+i+nw+bj+i+ai 1i+i+nw+bj+i+aw 1w+i+uc+OR+bj
    1i+i+uc+OR+bj 1w+i+uc+i+ai 1i+i+uc+i+aw 1w+i+ai+i+nw+bj 1i+i+aw+i+nw+bj 1w+i+gz+bj+i+ai+i+gz+bj
    1i+i+gz+bj+i+aw+i+gz+bj 0gz+bj+TO+OR+aw di dw+b+bw+jh di+b+bw+jh 0nw+bj+TO+OR+aw di
    3gz+bj+TO+OR+aw gi 0uc+OR+aw 7i 3i+aw+i+fl+g 6i+i+fl+g 0l+NESTED+aw ai aw+b+fd
    0ai+OVERLAPPING+aw 3qr+aw 1w+fk+BY+mf 1i+fk+BY+mf 1w+fk+BY+mf+i+gz+bj 1i+fk+BY+mf+i+gz+bj
    0SMALLER+THAN 0LARGER+THAN 0SMALLER+THAN+OR+bj+TO 0LARGER+THAN+OR+bj+TO 0fl+g+b+BUMPY+i
    0jk+i+of+fl+g 1m+i+of+fl+g 1k+i+of+ld+bj+TO 1m+i+of+ld+bj+TO 1k+i+fl+g 1m+i+fl+g 1k+i+ld+bj+TO
    1m+i+ld+bj+TO 1k+i+kl+bj+TO 1m+i+kl+bj+TO 1k+i+ld+kl+bj+TO 1m+i+ld+kl+bj+TO 0l+jk 3m 0hh+b+bw
    0fj+b+bw 0hh+b+bx+g+m 0fj+b+bx+g+m 0hh+b+gc+g+m 0fj+b+gc+g+m 0hh+OF+OR+bj+TO+b+bw+i
    0fj+OF+OR+bj+TO+b+bw+i 0hh+OF+i+fl+g 0fj+OF+i+fl+g 0hh+OF+i+bq+co 0fj+OF+i+bq+co
    0hh+OF+i+kl+bj+TO 0fj+OF+i+kl+bj+TO 0hh+OF+i+ld+bj+TO 0fj+OF+i+ld+bj+TO 0an+o+ed+wc+co
    3h+ed+wc+co 0fk+hh 3fj 3hh+OR+bj+TO 3fj+OR+bj+TO 0hh+i+fj 0fj+i+hh 0hh+i+hh 0fj+i+fj 3qr+hh
    6p+JOINED+BY+in+b+hh 0nx+OF+OPENING+aa 0PITCHFORK+b+TEE+pw 0TRANSVERSAL+ej 0FORKING 0NONFORKING
    0et+o+jx 3cb+jx 3UP+jx 0zn+b+S 0r+fa+dr+h+nb 0l+r+fa+o+nb 0r+fa+l+o+nb 0l+r+fa+l+o+nb
    0eh+in+kp+o+MEMBER+OF+l+r 1t+cb+jx+b+ky 3UP+jx+b+fd 9i+et+cb+jx 0l+cb+jx 2UP+jx 2u+ld+g
    0aq+l+u+ld+g 0DOES+ld+DIVIDE+b+aq+NEGATION+oh 0r+ft+b+ao+i am 0cb+jx+b+ao+m 0pn+b+y+u 5bq+co
    0dr+r+fa+BINARY+RELATION 8b+y+u 3hs+co 3NESTED+aw bi 0nw+gz+aw+OR+bj+TO 7i+OR+bj+TO
    0dr+gj+BINARY+RELATION 1c+dr+r+fa+co 0l+gj+co 0z+r+fa 0N-ARY+z+r+fa 0fe+fz+z+f 3gw+z+f 1v+fz+z+f
    3gw+z+f 0o+h+z+f 0q+x+f 0ap+x+f 1a+x+f 0fe+fz+x+f 3gw+x+f 1v+fz+x+f 3gw+x+f 0o+h+x+f 0UP+cb+x+f
    0k+f+b+TIP+aa bp 0q+f+b+TIP+aa bp 0an+b+pw+cc+x 5fx+cc+x 5cr+h+cm+cc+x 5bt+o+cm+cc+x
    0di+b+o+cc+x 5h+cc+x 5pw+cc+x 5fx+cc+x 0ey+an 0x+dc+an 0z+dc+an 0x+lz+d+an 0z+lz+d+an 0x+yg
    0z+yg 2HEXAGON 0x+HEXAGON 0y+x+HEXAGON 0x+dc+ao 2be+di 0z+be+di 0x+be+kw 0z+be+kw 0x+d+di 4kw
    0z+d+kw 0x+y+ELLIPSE 0z+y+ELLIPSE 0x+r+ELLIPSE 0z+r+ELLIPSE 0o+f+b+d+ao 0t+q+km 0o+f+b+cl+bx
    0eh+q+SQUIGGLE+f 0q+is+f+b+r+u 9l+r+u 7kp+fa 5dr+in+f 2f+b+ey+STEM 6gu+b+r+u bl+r+u 2is+f+b+gu
    b+b+r+u el+r+u 2f+ka+X 0pv+f+bb+DIRECTLY+o 0fl+g+i+q+f 0hg+bq+co+i+q+f 0q+f+i+hg+kl+bj+TO
    0k+f+ka+ai 7fj 0q+jq+f 0k+jq+f 0hg+bq+co+i+k+f 0k+f+i+hg+kl+bj+TO 0bq+co+i+q+f 0q+f+i+kl+bj+TO
    6hg+bq+co 0k+f+i+hg+bq+co 0aa+v+vh+f 0et+gz+fe+f 3BACKSLANTED+fv+f 0z+be+gg 0x+d+gg 0z+d+gg
    0x+cd+yg 0z+cd+yg 0al+dc+ao 3OVAL+b+OVAL+jh 3ao+b+ao+jh 5 3cl+mo 0gz+fe+f+b+HOOKED+qx
    0BACKSLANTED+fv+f+b+HOOKED+gu 0gz+fe+f+b+y+gu 0BACKSLANTED+fv+f+b+y+gu 0le+f+bb+aa+THEN+fe+fz
    0et+le+f+bb+aa+THEN+fe+fz 0q+v+f 0ap+v+f 0k+v+f 0aa+v+f 0o+h+v+f 0UP+cb+v+f 0fe+gw+v+f 3fz+v+f
    1v+fz+v+f 3gw+v+f 0q+v+nf+f 0ap+v+nf+f 0k+v+nf+f 0aa+v+nf+f 0ic+v+ed+ao+f 0dm+v+ed+ao+f
    0q+v+f+TO+fa 0ap+v+f+TO+fa 0k+v+f+TO+fa 0aa+v+f+TO+fa 3:0fe+gw+v+f+TO+fa 3fz+v+f+TO+fa
    1v+fz+v+f+TO+fa 3gw+v+f+TO+fa 0q+v+f+b+l+y+u 0ap+v+f+b+l+y+u 0k+v+f+b+l+y+u 0aa+v+f+b+l+y+u
    0y+TAB+KEY 0r+TAB+KEY 0q+v+f+cw+k+v+f 0ap+v+f+q+OF+aa+v+f 0k+v+f+cw+q+v+f 0aa+v+f+q+OF+ap+v+f
    0q+v+uw+km 0ap+v+uw+km 0k+v+uw+km 0aa+v+uw+km 0q+x+cl+z+f 0ap+x+cl+z+f 0k+x+cl+z+f 0aa+x+cl+z+f
    0dm+v+h+yw+f 5fx+yw+f 5o+yw+f 5pw+yw+f 0RETURN+o 7h 0NEWLINE+o 8h 0at+fy+km+CIRCLING+dm 0k+x+f
    2:0w+qm+TYPE+A+ELECTRONICS 0THREE-D+TOP-LIGHTED+q+de+am 8RIGHT-LIGHTED+ap+de+am
    8TOP-LIGHTED+k+de+am 8LEFT-LIGHTED+aa+de+am 0x+q+de+am 2ap+de+am 2k+de+am 2aa+de+am
    0aa+v+f+b+eh+TIP+q gk 1p+v+f+b+eh+TIP+q gk 0q+v+f+b+eh+TIP+ap 0k+v+f+b+eh+TIP+ap
    0q+v+f+b+eh+TIP+aa 0k+v+f+b+eh+TIP+aa 0x+qa+aa+p+q+f ak+f 6p+p+q+f ak+f 5q+p+ap+f 5k+p+ap+f
    5q+p+aa+f 5k+p+aa+f 0RIBBON+f+cb+o ch 9UP+o ch 9o+UP 9h+UP 9o+cb 9h+cb 0ap+z+f+kp+fa+b+y+fa
    0UP+am+IN+A+po+wc 0OVERLAPPING+z+SQUARES ep+x+SQUARES cx+SQUARES 0xd+wc+b+bl+X 0cl+X 3lh+X
    0x+an+ro 2di+ro 0bh+x+yg 0y+x+OCTAGON 0x+OCTAGON 2be+ge+ah+ro 6b+ah+ro 5dd+ah+ro 5cd+ah+ro
    0NEPTUNE+e+bn 0pw+cc+x+ao 0fx+cc+x+ao 0bl+at+dz+x+CUSP 1p+bl+at+dz+x+CUSP 0z+at+dz+CUSP
    0bp+z+at+dz+CUSP 0an+POSITION+mw 0UNCERTAINTY+g 0GROUP+aj 0PLUTO+e+bn 8t 8at 9y 0TRANSPLUTO
    0PROSERPINA 0ASTRAEA 0HYGIEA 0PHOLUS 0NESSUS 0z+mn+SELENA 0x+di+ON+fn 0TRUE+bl+mn+ARTA 0CUPIDO
    0HADES 0ZEUS 0KRONOS 0APOLLON 1DMETOS 0VULCANUS 0POSEIDON 0o+cc+x+gg 0h+cc+x+gg 0gg+b+o+cc+x
    5h+cc+x 0q+is+f+b+ah+xb 0ap+is+f+b+ah+xb 0k+is+f+b+ah+xb 0aa+is+f+b+ah+xb 0ERIS+e+bs 8n 0SEDNA
    0RUSSIAN+ASTROLOGICAL+w+VIGINTILE nNOVILE nQUINTILE nBINOVILE nSENTAGON nTREDECILE 0fl+g+b+tn+m
    0UNITED+w 0SEPARATED+w 0DOUBLED+w 0PASSED+w 0aq+h+eo 0HELLSCHREIBER+PAUSE+w 0GLAGOLITIC+c+a+AZU
    fBUKY fVEDE fGLAGOLI fDOBRO fYESTU fZHIVETE fDZELO fZEMLJA fIZHE fs+IZHE fI fDJERVI fKAKO
    fLJUDIJE fMYSLITE fNASHI fONU fPOKOJI fRITSI fSLOVO fTVRIDO fUKU fFRITU fHERU fOTU fPE fSHTA
    fTSI fCHRIVI fjd fYERU iI gATI fSPIDERY+HA fYU fd+vf j+b+gu fYO fws+d+vf fBIG+vf fws+BIG+vf
    fFITA fwt fSHTAPIC fTROKUTASTI+A fLATINATE+MYSLITE fCAUDATE+CHRIVI bd+a+AZU fBUKY fVEDE fGLAGOLI
    fDOBRO fYESTU fZHIVETE fDZELO fZEMLJA fIZHE fs+IZHE fI fDJERVI fKAKO fLJUDIJE fMYSLITE fNASHI
    fONU fPOKOJI fRITSI fSLOVO fTVRIDO fUKU fFRITU fHERU fOTU fPE fSHTA fTSI fCHRIVI fjd fYERU iI
    gATI fSPIDERY+HA fYU fd+vf j+b+gu fYO fws+d+vf fBIG+vf fws+BIG+vf fFITA fwt fSHTAPIC
    fTROKUTASTI+A fLATINATE+MYSLITE fCAUDATE+CHRIVI 0es+c+a+L+b+l+fa 3d+a+L+b+l+fa 3c+a+L+b+ad+bq
    7P+b+u 7R+b+gu 3d+a+A+b+u 7T+b+cm+u 3c+a+H+b+cg 3d+a+H+b+cg 3c+a+K+b+cg 3d+a+K+b+cg 3c+a+Z+b+cg
    3d+a+Z+b+cg 3c+a+hi 7M+b+av 7bh+A ahi 3d+a+V+b+h+av 3c+a+W+b+av 3d+a+W+b+av 7V+b+pa 3c+a+cc+H
    3d+a+cc+H 7TAILLESS+yh 7E+b+NOTCH 7bh+R+b+gu 7O+b+hl+dh+jh 3a+d+c+bh+E 3ps+d+a+J 0dx+a+c+V
    0es+c+a+S+b+SWASH+gu 7Z+b+SWASH+gu 0hj+c+a+ALFA 3d+a+ALFA 3c+a+VIDA 3d+a+VIDA 3c+a+kg 3d+a+kg
    3c+a+DALDA 3d+a+DALDA 3c+a+EIE 3d+a+EIE 3c+a+SOU 3d+a+SOU 3c+a+ZATA 3d+a+ZATA 3c+a+HATE
    3d+a+HATE 3c+a+THETHE 3d+a+THETHE 3c+a+IAUDA 3d+a+IAUDA 3c+a+KAPA 3d+a+KAPA 3c+a+LAULA
    3d+a+LAULA 3c+a+MI 3d+a+MI 3c+a+NI 3d+a+NI 3c+a+KSI 3d+a+KSI 3c+a+O 3d+a+O 3c+a+PI 3d+a+PI
    3c+a+RO 3d+a+RO 3c+a+SIMA 3d+a+SIMA 3c+a+TAU 3d+a+TAU 3c+a+UA 3d+a+UA 3c+a+FI 3d+a+FI 3c+a+KHI
    3d+a+KHI 3c+a+PSI 3d+a+PSI 3c+a+OOU 3d+a+OOU 3c+a+mu+da 3d+a+mu+da 3c+a+ma+hj+sp 3d+a+ma+hj+sp
    3c+a+hw+EIE 3d+a+hw+EIE 3c+a+mu+KAPA 3d+a+mu+KAPA 3c+a+mu+NI 3d+a+mu+NI 3c+a+hw+NI 3d+a+hw+NI
    3c+a+ma+hj+OOU 3d+a+ma+hj+OOU 3c+a+SAMPI 3d+a+SAMPI 3c+a+ko+SHEI 3d+a+ko+SHEI 3c+a+ma+hj+SHEI
    3d+a+ma+hj+SHEI 3c+a+ma+hj+ESH 3d+a+ma+hj+ESH 3c+a+AKHMIMIC+KHEI 3d+a+AKHMIMIC+KHEI 3c+a+mu+HORI
    3d+a+mu+HORI 3c+a+ma+hj+HORI 3d+a+ma+hj+HORI 3c+a+ma+hj+HA 3d+a+ma+hj+HA 3c+a+L-SHAPED+HA
    3d+a+L-SHAPED+HA 3c+a+ma+hj+HEI 3d+a+ma+hj+HEI 3c+a+ma+hj+HAT 3d+a+ma+hj+HAT 3c+a+ma+hj+GANGIA
    3d+a+ma+hj+GANGIA 3c+a+ma+hj+DJA 3d+a+ma+hj+DJA 3c+a+ma+hj+SHIMA 3d+a+ma+hj+SHIMA
    3c+a+ma+sw+SHIMA 3d+a+ma+sw+SHIMA 3c+a+ma+sw+NGI 3d+a+ma+sw+NGI 3c+a+ma+sw+NYI 3d+a+ma+sw+NYI
    3c+a+ma+sw+WAU 3d+a+ma+sw+WAU 3w+KAI 5MI+RO 5PI+RO 5STAUROS 5TAU+RO 5KHI+RO 5SHIMA+SIMA
    3c+a+hw+SHEI 3d+a+hw+SHEI 3c+a+hw+GANGIA 3d+a+hw+GANGIA 3ck+NI+i 6SPIRITUS+ASPER fLENIS
    4+a+BOHAIRIC+KHEI 3d+a+BOHAIRIC+KHEI 6:3ma+sw+hd+fb 9DIRECT+eb+aj 9INDIRECT+eb+aj 9VERSE+wp
    3gq+bs+cc 3hd+fb 3MORPHOLOGICAL+wp 0xo+d+a+AN 7BAN 7GAN 7DON 7EN 7VIN 7ZEN 7TAN 7IN 7KAN 7LAS
    7MAN 7NAR 7ON 7PAR 7ZHAR 7RAE 7SAN 7TAR 7UN 7PHAR 7KHAR 7GHAN 7QAR 7lf 7CHIN 8AN 7JIL 7CIL 8HAR
    7XAN 7JHAN 7HAE 8E 8IE 7WE 7HAR 8OE 2:7YN 6:7AEN 3:0TIFINAGH+a+YA dB eH dG eHH
    bBERBER+ACADEMY+YAJ bYAJ dD eH eD fH cEY cAF dK byv+YAK bYAKHH dH bBERBER+ACADEMY+YAH byv+YAH
    bYAHH dA dKH byv+YAKH bYAQ byv+YAQ bYI cAZH bAHAGGAR+YAZH byv+YAZH bYAL dM dN byv+YAGN ezw bYAP
    cU cAR eR dGH byv+YAGH bAYER+YAGH bYAS eS eH dT eH dCH dTT dV dW dY dZ bTAWELLEMET+YAZ bYAZZ cE
    cO 8:9dx+a+LABIALIZATION+aj 9ei+aj f:aq+xv 0ETHIOPIC+hv+LOA cMOA cROA cSOA dHOA cBOA cTOA cCOA
    cNOA dYOA cfp+OA cZOA cDOA dDOA cJOA cTHOA cCHOA cPHOA dOA cGGWA fI fEE g a:cqj cSSU eI eAA eEE
    f eO 2:cCCA eU eI eAA eEE f eO 2:cZZA eU eI eAA eEE f eO 2:cCCHA fU fI fAA fEE g fO 2:cQYA eU eI
    eAA eEE f eO 2:cKYA eU eI eAA eEE f eO 2:cXYA eU eI eAA eEE f eO 2:cGYA eU eI eAA eEE f eO
    2:0ck+it+a+BE 8VE 8GHE 8DE 8ZHE 9E 8KA 8EL 9M 9N 8O 8PE 8ER 9S 8TE 8HA 8TSE 8zb 8jd 8SHCHA 8FITA
    8ES-TE 8A 8IE 8DJERV 8MONOGRAPH+UK 8YAT 9U 8hu+A 8db+vf 8BIG+vf 8hu+BIG+vf 0h+eo+mq+uv 5ey+mq+uv
    0o+mq+ae 0h+mq+ae 0o+ey+mq+ae 0h+ey+mq+ae 1f+INTERPOLATION+uv 3ey+INTERPOLATION+uv 0ey+zv+uv
    0o+zv+ae 0h+zv+ae 1f+an 0o+hf+OMISSION+ae 0h+hf+OMISSION+ae 0EDITORIAL+CORONIS 0PARAGRAPHOS
    0FORKED+PARAGRAPHOS 0aq+FORKED+PARAGRAPHOS 0HYPODIASTOLE 0ey+OBELOS 0aa+ANCORA 1p+ANCORA
    0ey+cd+eo 0l+jp+op 0ba+qz 0PALM+BRANCH 0op+b+ak 0bq+b+dh+i 0o+hl+PARAPHRASE+ae
    0h+hl+PARAPHRASE+ae 0bq+b+bw+i 8m 0o+r+fa+b+QUILL 0h+r+fa+b+QUILL 0pw+o+cc+ae 3h+cc+ae
    0fx+o+cc+ae 3h+cc+ae 0o+nn+U+ae 0h+nn+U+ae 0o+l+bd 0h+l+bd 0bn+cu+cw+bs+bw+bc 1s+bw+cw+bn+cu+bc
    0ea+at+bw+bc 0ay+bw+aj 1q+eb+aj 0r+bq 0dh+ri 0vd+ei+ad+bw 0bh+dp 0hf+bw 3dp 0bh+ix
    0DAGGER+b+o+GUARD 9h+GUARD 0bh+DAGGER 0pw+cc+gi+g 0TWO-EM+in 1HREE-EM+in 0STENOGRAPHIC+hd+fb
    0r+ev+cu 0WIGGLY+r+ft 0CAPITULUM 0l+op 0aq+dp 0l+LOW-REVERSED-9+dg+aj 0in+b+o+UPTURN
    0l+SUSPENSION+aj 0ba+hl+KAVYKA c+b+KAVYKA+i 0hl+KAVYKA 9+b+bw 0l+STACKED+dp 0ey+gj 0dr+DAGGER
    0MEDIEVAL+dp 0PARAGRAPHUS+aj 1UNCTUS+ELEVATUS+aj 0CORNISH+VERSE+wp 0fn+PATTY+b+h+CROSSBAR
    bo+CROSSBAR 0TIRONIAN+g+c+ET 0MEDIEVAL+cy+aj 9eb+aj 0o+an+ae+b+u 0h+an+ae+b+u 0o+an+ae+b+l+u
    0h+an+ae+b+l+u 0pw+cc+o+bd 6h+bd 0fx+cc+o+bd 6h+bd 0jp+op 23:0CJK+RADICAL+REPEAT cCLIFF cym+bs
    gn ft ckz cwc cTABLE cKNIFE+bs jn cDIVINATION cSEAL cd+bs fn cLAME+bs in ht hat cSNAKE cTHREAD
    cSNOUT+bs jn cid+bs gn ckq cRAP 2:cCHOKE cSUN cmn cDEATH cMOTHER cCIVILIAN crm+bs gn cFIRE
    cPAW+bs hn cyp+cc+TREE+TRUNK cCOW cDOG cJADE cBOLT+OF+CLOTH cEYE cSPIRIT+bs kn cBAMBOO cSILK
    cff+SILK cNET+bs hn gt gat cMESH cSHEEP cRAM cEWE cma cBRUSH+bs jn cMEAT dORTAR cGRASS+bs jn it
    cTIGER cCLOTHES cgw+bs gn cff+SEE cyp+jv cjv cff+yr fjr cFOOT cff+CART cyp+WALK cWALK+bs in
    cCITY cff+GOLD ceh+bs gn cff+eh fGATE cMOUND+bs jn cRAIN cBLUE cff+TANNED+LEATHER fpg fWIND fFLY
    cEAT+bs hn gt cff+EAT cqx cff+xr cBONE cGHOST cff+FISH fBIRD fSALT cyp+WHEAT fYELLOW cff+FROG
    cto+EVEN cff+EVEN cto+TOOTH cff+TOOTH cto+ul cff+ul cTURTLE cto+TURTLE cff+TURTLE
    d:0KANGXI+RADICAL+bs fft fbw foh fym fav fbn fLID fMAN fLEGS fENTER far fcb+wc fCOVER fICE
    fTABLE fed+wc fKNIFE fPOWER fWRAP fSPOON fh+ed+wc fHIDING+ENCLOSURE fik fDIVINATION fSEAL fCLIFF
    fPRIVATE fAGAIN fkx fENCLOSURE fqh fSCHOLAR fGO h+SLOWLY fEVENING fBIG fWOMAN fCHILD fROOF fINCH
    fd fLAME fCORPSE fSPROUT fph fRIVER fWORK fONESELF fTURBAN fDRY fet+THREAD gy+CLIFF gh+STRIDE
    fbn+xq fSHOOT fBOW fSNOUT fBRISTLE fSTEP fid fHALBERD fDOOR fkq fBRANCH fRAP fhn fDIPPER fAXE
    fan fld fSUN gAY fmn fTREE fLACK ffb fDEATH fWEAPON fDO+ld fCOMPARE fFUR fCLAN fSTEAM frm fFIRE
    fCLAW fFATHER fl+X fcc+TREE+TRUNK fSLICE fFANG fCOW fDOG fPROFOUND fJADE fMELON fTILE fSWEET
    fLIFE fUSE fFIELD fBOLT+OF+CLOTH fSICKNESS fey+TENT fz fSKIN fon fEYE fSPEAR ff fSTONE gPIRIT
    fTRACK fGRAIN fCAVE fSTAND fBAMBOO fRICE fSILK fJAR fNET fSHEEP fFEATHER fma fp fPLOW fEAR
    fBRUSH fMEAT gINISTER fSELF fARRIVE fMORTAR fyu fOPPOSE fBOAT fSTOPPING fCOLOR fGRASS fTIGER
    fINSECT fBLOOD fWALK+ENCLOSURE fCLOTHES fgw fSEE fjv fyr fVALLEY fBEAN fPIG fBADGER fjr fRED gUN
    fFOOT fBODY fCART fBITTER fMORNING fWALK fCITY fWINE fDISTINGUISH fVILLAGE fGOLD feh fGATE
    fMOUND fSLAVE fet+TAILED+BIRD fRAIN fBLUE fWRONG fcs fLEATHER fTANNED+LEATHER fLEEK fnp fpg
    fWIND fFLY fEAT fqx fFRAGRANT fxr fBONE fTALL fHAIR fFIGHT fSACRIFICIAL+WINE fCAULDRON fGHOST
    fFISH fBIRD fSALT fDEER fWHEAT fHEMP fYELLOW fMILLET fx fEMBROIDERY fFROG fTRIPOD fDRUM fRAT
    fNOSE fEVEN fTOOTH ful fTURTLE fFLUTE 1b:0fu+DESCRIPTION+lj+o+TO+h ii+TO+m io+TO+ad+p+h
    ii+TO+ad+p+m ihd+SURROUND iSURROUND+kp+i um uo ucr+o xh ubt+o iOVERLAID 5:3kk 3dp 3hd+fb
    0DITTO+aj 0ra+INDUSTRIAL+STANDARD+w 0fu+lm+aj 3CLOSING+aj 3cq+du 0o+eo+ae 0h+eo+ae 0o+l+eo+ae
    0h+l+eo+ae 0o+fy+ae 0h+fy+ae 0o+z+fy+ae 0h+z+fy+ae 0o+x+lp+ae 0h+x+lp+ae 0POSTAL+aj 0GETA+aj
    0o+he+jr+ae 0h+he+jr+ae 0o+z+lp+ae 0h+z+lp+ae 0o+z+he+jr+ae 0h+z+he+jr+ae 0o+z+an+ae 0h+z+an+ae
    0pv+in 0aq+l+sj+dg+aj 0l+sj+dg+aj 0hl+l+sj+dg+aj 0POSTAL+aj+cs 0HANGZHOU+oc+bs dn ct cat dy cev
    cau dr ccj 0fu+LEVEL+el+aj 3nm+el+aj 3DEPARTING+el+aj 3ENTERING+el+aj 0sv+ce+bw+el+aj
    3l+bw+el+aj 0WAVY+in 0r+KANA+REPEAT+aj eb+rl+np+aj eaj+cr+cc eb+rl+np+aj+cr+cc eaj+bt+cc
    0cl+POSTAL+aj 0fu+TELEGRAPH+ft+FEED+ei+w 0HANGZHOU+oc+ik cem cih 0r+fu+lm+aj 0MASU+aj
    0PART+ALTERNATION+aj 0fu+vc+mw 3cc+wd+kk 2:0tl+a+d+A 5A 5d+I 5I 5d+U 5U 5d+E 5E 5d+O 5O 5KA 5GA
    5KI 5GI 5KU 5GU 5KE 5GE 5KO 5GO 5SA 5ZA 5SI 5ZI 5SU 5ZU 5SE 5ZE 5SO 5ZO 5TA 5DA 5TI 5DI 5d+TU
    5TU 5DU 5TE 5DE 5TO 5DO 5NA 6I 6U 6E 6O 5HA 5BA 5PA 5HI 5BI 5PI 5HU 5BU 5PU 5HE 5BE 5PE 5HO 5BO
    5PO 5MA 6I 6U 6E 6O 5d+YA 5YA 5d+YU 5YU 5d+YO 5YO 5RA 6I 6U 6E 6O 5d+WA 5WA 6I 6E 6O 5N 5VU
    5d+KA 8E 3:0ck+ku+rl+np+aj 6SEMI-VOICED+np+aj 0ku+rl+np+aj 3SEMI-VOICED+np+aj 0tl+lm+aj
    3rl+lm+aj 3fo+YORI 0ku+l+op 1t+a+d+A 5A 5d+I 5I 5d+U 5U 5d+E 5E 5d+O 5O 5KA 5GA 5KI 5GI 5KU 5GU
    5KE 5GE 5KO 5GO 5SA 5ZA 5SI 5ZI 5SU 5ZU 5SE 5ZE 5SO 5ZO 5TA 5DA 5TI 5DI 5d+TU 5TU 5DU 5TE 5DE
    5TO 5DO 5NA 6I 6U 6E 6O 5HA 5BA 5PA 5HI 5BI 5PI 5HU 5BU 5PU 5HE 5BE 5PE 5HO 5BO 5PO 5MA 6I 6U 6E
    6O 5d+YA 5YA 5d+YU 5YU 5d+YO 5YO 5RA 6I 6U 6E 6O 5d+WA 5WA 6I 6E 6O 5N 5VU 5d+KA 8E 5VA 6I 6E 6O
    4d+bw 1u+PROLONGED+np+aj 1t+lm+aj 3rl+lm+aj 3fo+KOTO 6:0BOPOMOFO+a+B bP bM bF bD bT bN bL bG bK
    bH bJ bQ bX bZH bCH bSH bR bZ bC bS bA bO bE cH bAI bEI bAU bOU bAN bEN bANG bENG cR bI bU bIU
    bV bNG bGN bIH bO+b+bw+i bNN 2:0sv+a+us 5vx 5KIYEOK-SIOS 5NIEUN 5vq 6r 6a 6y 5RIEUL 5tx 5vt 6u
    5yl 5zq 6p 5vs 5MIEUM 5PIEUP 5yt 6i 5SIOS 6SANGSIOS 5xt 6f 5ys 5rp 6s 6z 6t 5HIEUH 5A 6E 5YA 7E
    5EO 6 5YEO 7 5O 5WA 7E 5OE 5YO 5U 5WEO 7 6I 5YU 5EU 5YI 5I 3st 3a+SSANGNIEUN 5NIEUN-TIKEUT bSIOS
    bPANSIOS 5RIEUL-KIYEOK-SIOS bTIKEUT bPIEUP-SIOS cANSIOS bYEORINHIEUH 5MIEUM-PIEUP bSIOS bPANSIOS
    5zj 5PIEUP-KIYEOK bTIKEUT bSIOS-KIYEOK 5tv 5PIEUP-CIEUC bTHIEUTH 5zk 5KAPYEOUNSSANGPIEUP
    5SIOS-KIYEOK aNIEUN aTIKEUT aPIEUP aCIEUC 5PANSIOS 5SSANGIEUNG 5YESIEUNG d-SIOS ePANSIOS 5wf
    5SSANGHIEUH 5YEORINHIEUH 6O-YA aE 8I 6U-YEO a 8I 5ARAEA aE 2:0fu+ANNOTATION+LINKING+aj ehg+aj
    ebs+aj fn+aj et+aj eat+aj epw+aj ead+aj efx+aj exl+aj eym+aj erk+aj eFOURTH+aj eHEAVEN+aj eqh+aj
    eMAN+aj 0BOPOMOFO+a+BU bZI bJI bGU bEE cNN bOO cNN bIR bANN bINN bUNN bIM bNGG bAINN cUNN cM bOM
    cNG bINNN 9n+a+P dT dK dH 9a+GH bLH bZY 9n+a+G 9a+GW bKW bOE bAH 0CJK+u+T 6WG 6XG 6BXG 6SW 6HZZ
    8G 7P 7ZWG 6SZWG 6HZT 8ZP 7PWG 7ZW 8ZZ 6N 6H 6S 6P 6SP 6D 6HZ 7G 6SZ 7WZ 7T 7G 6PD 7Z 6TN 6SZZ
    7WG 6HXWG 7ZZZG 6PG 6Q d:0kt+a+d+KU 7SI 8U 7TO 7NU 7HA 8I 8U 8E 8O 7MU 7RA 8I 8U 8E 8O 0si+sv+us
    6NIEUN 6va 6RIEUL 6MIEUM 6PIEUP 6SIOS 6xt 7f 6rp 7s 7z 7t 6HIEUH 6us+A 6NIEUN+A 6va+A 6RIEUL+A
    6MIEUM+A 6PIEUP+A 6SIOS+A 6xt+A 7f+A 6rp+A 7s+A 7z+A 7t+A 6HIEUH+A 6xf+U 3KOREAN+lj+OJEON e+HU
    2:3IDEOGRAPH+bs en dt dat ey dev dau er dcj dik dmn dFIRE drm dWOOD dMETAL dqh dSUN eTOCK dHAVE
    dSOCIETY dNAME dSPECIAL dFINANCIAL dCONGRATULATION dLABOR dREPRESENT dCALL dSTUDY eUPERVISE
    dENTERPRISE dRESOURCE dALLIANCE dFESTIVAL dsd dSELF dREACH 0cl+IDEOGRAPH+eb dKINDERGARTEN
    dSCHOOL dKOTO 3cq+ik+ON+x+an 6em+ON+x+an 6ih+ON+x+an 6mg+ON+x+an 6hk+ON+x+an 6no+ON+x+an
    6ef+ON+x+an 6ll+ON+x+an 0PARTNERSHIP+g 0cl+cq+em+bs an 9t 9at ay 9ev 9au ar 9cj 6ih 8+bs an 9t
    9at ay 3sv+us 6NIEUN 6va 6RIEUL 6MIEUM 6PIEUP 6SIOS 6xt 7f 6rp 7s 7z 7t 6HIEUH 6us+A 6NIEUN+A
    6va+A 6RIEUL+A 6MIEUM+A 6PIEUP+A 6SIOS+A 6xt+A 7f+A 6rp+A 7s+A 7z+A 7t+A 6HIEUH+A
    3KOREAN+lj+CHAMKO dJUEUI 3sv+xt+U 0KOREAN+STANDARD+w 0cl+IDEOGRAPH+bs en dt dat ey dev dau er
    dcj dik dmn dFIRE drm dWOOD dMETAL dqh dSUN eTOCK dHAVE dSOCIETY dNAME dSPECIAL dFINANCIAL
    dCONGRATULATION dLABOR dSECRET dMALE dFEMALE dSUITABLE dEXCELLENT dPRINT dATTENTION dITEM dsd
    dCOPY fRRECT dew dcz dhl do dh dMEDICINE dRELIGION dSTUDY eUPERVISE dENTERPRISE dRESOURCE
    dALLIANCE dNIGHT 3cq+ih+ev 9au ar 9cj 6mg 8+bs an 9t 9at ay 9ev 9au ar 9cj 6hk
    0fu+TELEGRAPH+w+qm+JANUARY iFEBRUARY iMARCH iAPRIL iMAY iJUNE kLY iAUGUST iSEPTEMBER iOCTOBER
    iNOVEMBER iDECEMBER 0an+HG 3ERG 4V 0LIMITED+LIABILITY+g 0cl+kt+A 6I 6U 6E 6O 6KA 7I 7U 7E 7O 6SA
    7I 7U 7E 7O 6TA 7I 7U 7E 7O 6NA 7I 7U 7E 7O 6HA 7I 7U 7E 7O 6MA 7I 7U 7E 7O 6YA 7U 7O 6RA 7I 7U
    7E 7O 6WA 7I 7E 7O 0an+ERA+NAME+REIWA 3APAATO 4RUHUA 4NPEA 4ARU 3ININGU 5TI 3UON 3ESUKUUDO 4EKAA
    3ONSU 4OMU 3KAIRI 5RATTO 6ORII 3GARON 5NMA 4IGA 5NII 3KYURII 3GIRUDAA 3KIRO 7GURAMU 7MEETORU
    7WATTO 3GURAMU 9TON 3KURUZEIRO 6OONE 4EESU 4ORUNA 5OPO 3SAIKURU 5NTIIMU 4IRINGU 4ENTI 7O 3DAASU
    4ESI 4ORU 3TON 3NANO 4OTTO 3HAITU 3PAASENTO 6TU 3BAARERU 3PIASUTORU 5KURU 6O 3BIRU 3HUARADDO
    5IITO 3BUSSYERU 3HURAN 4EKUTAARU 3PESO 5NIHI 3HERUTU 3PENSU 5EZI 3BEETA 3POINTO 3BORUTO 3HON
    3PONDO 3HOORU 6N 3MAIKURO 6RU 5HHA 5RUKU 5NSYON 4IKURON 5RI 7BAARU 4EGA 7TON 5ETORU 3YAADO 6RU
    4UAN 3RITTORU 5RA 4UPII 5UBURU 4EMU 5NTOGEN 3WATTO 0fu+TELEGRAPH+w+qm+HOUR+du nbs on nt nat oy
    nev nau or ncj nik noo nme npu of nml nog nmy nnh npj nem nTWENTY-ONE uTWO vHREE uFOUR 0an+HPA
    3DA 3AU 3fa 3OV 3PC 3DM 5+ea 6CUBED 3IU 3ERA+NAME+HEISEI cSYOUWA cTAISYOU cMEIZI 3CORPORATION
    3PA+AMPS 3NA 3MU+A 4A 3KA 4B 3MB 3GB 3CAL 3KCAL 3PF 3NF 3MU+F 6G 4G 3KG 3HZ 3KHZ 3MHZ 3GHZ 3THZ
    3MU+L 4L 3DL 3KL 3FM 3NM 3MU+M 4M 3CM 3KM 3MM+ea 3CM+ea 3M+ea 3KM+ea 3MM+CUBED 3CM+CUBED
    3M+CUBED 3KM+CUBED 3M+cw+S 9+ea 3PA 3KPA 3MPA 3GPA 3RAD 6+cw+S b+ea 3PS 3NS 3MU+S 4S 3PV 3NV
    3MU+V 4V 3KV 3MV+MEGA 3PW 3NW 3MU+W 4W 3KW 3MW+MEGA 3K+OHM 3M+OHM 3AM 3BQ 3CC 4D 4+cw+KG 4O 3DB
    3GY 3HA 4P 3IN 3KK 4M+c 4T 3LM 4N 4OG 4X 3MB+d 4IL 4OL 3PH 4M 4PM 4R 3SR 4V 3WB 3V+cw+M 3A+cw+M
    0fu+TELEGRAPH+w+qm+DAY+bs nn mt mat ny mev mau nr mcj mik moo mme mpu nf mml mog mmy mnh mpj mem
    mTWENTY-ONE tTWO uHREE tFOUR mwb mTWENTY-SIX uEVEN tEIGHT tNINE mih mTHIRTY-ONE 0an+GAL
    19c1:0HEXAGRAM+qm+qn+CREATIVE+HEAVEN fRECEPTIVE+qh cDIFFICULTY+AT+qn+BEGINNING cYOUTHFUL+FOLLY
    cWAITING cCONFLICT cqn+ARMY cwq+TOGETHER cd+TAMING cTREADING cPEACE cSTANDSTILL cFELLOWSHIP
    cGREAT+POSSESSION cMODESTY cENTHUSIASM cFOLLOWING cWORK+ON+qn+DECAYED cAPPROACH cCONTEMPLATION
    cBITING+ka cGRACE cSPLITTING+APART cRETURN cINNOCENCE cGREAT+TAMING ckx+wn cGREAT+PREPONDERANCE
    cqn+ABYSMAL+rm fCLINGING+FIRE cINFLUENCE cDURATION cRETREAT cGREAT+POWER cPROGRESS
    cDARKENING+OF+qn+bl cqn+FAMILY cOPPOSITION dBSTRUCTION cDELIVERANCE eCREASE cINCREASE
    cBREAKTHROUGH cCOMING+TO+MEET cGATHERING+TOGETHER cPUSHING+UPWARD cOPPRESSION cqn+WELL
    cREVOLUTION cqn+CAULDRON fAROUSING+THUNDER fKEEPING+STILL+ph cDEVELOPMENT cqn+MARRYING+MAIDEN
    cABUNDANCE cqn+WANDERER fGENTLE+WIND fJOYOUS+LAKE cDISPERSION cLIMITATION cINNER+TRUTH
    cd+PREPONDERANCE cAFTER+COMPLETION cBEFORE+COMPLETION 5201:0YI+hv+IT 7X 7 7P 7ET 8X 8 8P 6AT 7X
    7 7P 6UOX 8 8P 6OT 7X 7 7P 6EX 7 6WU 6BIT 8X 8 8P 8ET 9X 9 9P 7AT 8X 8 8P 7UOX 9 9P 7OT 6wc 6BO
    8P 7EX 8 8P 7UT 8X 8 8P 8RX 9 7YT 8X 8 8P 8RX 9 6PIT 8X 8 8P 8EX 9 9P 7AT 8X 8 8P 7UOX 9 9P 7OT
    8X 8 8P 7UT 8X 8 8P 8RX 9 7YT 8X 8 8P 8RX 9 6BBIT 9X 9 9P 9ET aX a aP 8AT 9X 9 9P 8UOX a aP 8OT
    9X 9 9P 8EX 9 9P 8UT 9X 9 9P 9RX a 8YT 9X 9 9P 6NBIT 9X 9 9P 9EX a aP 8AT 9X 9 9P 8OT 9X 9 9P
    8UT 9X 9 9P 9RX a 8YT 9X 9 9P 9RX a 6HMIT 9X 9 9P 9EX a aP 8AT 9X 9 9P 8UOX a aP 8OT 9X 9 9P 8UT
    9X 9 9P 9RX a 8YX 9 9P 9RX a 6MIT 8X 8 8P 8EX 9 9P 7AT 8X 8 8P 7UOT 9X 9 9P 7OT 8X 8 8P 7EX 8
    7UT 8X 8 8P 8RX 9 7YT 8X 8 8P 6FIT 8X 8 8P 7AT 8X 8 8P 7OX 8 8P 7UT 8X 8 8P 8RX 9 7YT 8X 8 8P
    6VIT 8X 8 8P 8ET 9X 9 9P 7AT 8X 8 8P 7OT 8X 8 8P 7EX 8P 7UT 8X 8 8P 8RX 9 7YT 8X 8 8P 8RX 9 6DIT
    8X 8 8P 8EX 9 9P 7AT 8X 8 8P 7UOX 9 6bw 6DOX 8 8P 7EX 8 8P 7UT 8X 8 8P 8RX 9 6TIT 8X 8 8P 8EX 9
    9P 7AT 8X 8 8P 7UOT 9X 9 9P 7OT 8X 8 6pw 6TEX 8 8P 7UT 8X 8 8P 8RX 9 6DDIT 9X 9 9P 9EX a aP 8AT
    9X 6ng 6DDAP 8UOX a aP 8OT 9X 9 9P 8EX 9 9P 8UT 9X 9 9P 9RX a 6NDIT 9X 9 9P 9EX a 8AT 9X 9 9P
    8OT 9X 9 9P 8EX 9 9P 8UT 9X 9 9P 9RX a 6HNIT 9X 9 9P 9ET aX a aP 8AT 9X 9 9P 8UOX a 8OT 9X 9P
    8EX 9 9P 8UT 6NIT 8X 8 8P 8EX 9 9P 7AX 8 8P 7UOX 9 9P 6ld 6NOX 8 8P 7EX 8 8P 7UT 8X 8 8P 8RX 9
    6HLIT 9X 9 9P 9EX a aP 8AT 9X 9 9P 8UOX a aP 8OX 9 9P 8EX 9 9P 8UT 9X 9 9P 9RX a 8YT 9X 9 9P 9RX
    a 6LIT 8X 8 8P 8ET 9X 9 9P 7AT 8X 8 8P 7UOT 9X 9 9P 7OT 8X 8 8P 7EX 8 8P 7UT 8X 8 8P 8RX 9 7YT
    8X 8 8P 8RX 9 6GIT 8X 8 8P 8ET 9X 9 9P 7AT 8X 8 8P 7UOT 9X 9 9P 7OT 8X 8 8P 7ET 8X 8 8P 7UT 8X 8
    8P 8RX 9 6KIT 8X 8 8P 8EX 9 9P 7AT 8X 8 8P 7UOX 9 9P 7OT 8X 8 8P 7ET 8X 8 8P 7UT 8X 8 8P 8RX 9
    6GGIT 9X 9 9EX a aP 8AT 9X 9 9P 8UOT aX a aP 8OT 9X 9 9P 8ET 9X 9 9P 8UT 9X 9 9P 9RX a 6MGIEX a
    8AT 9X 9 9P 8UOX a aP 8OT 9X 9 9P 8EX 9 9P 8UT 9X 9 9P 9RX a 6HXIT 9X 9 9P 9ET aX a aP 8AT 9X 9
    9P 8UOT aX a aP 8OT 9X 9 9P 8EX 9 9P 6NGIEX a aP 8AT 9X 6jc 6NGAP 8UOT aX a 8OT 9X 9 9P 8EX 9 9P
    6HIT 8EX 9 7AT 8X 8 8P 7UOT 9X 9 9P 7OT 8X 8 8P 7EX 8 8P 6WAT 8X 8 8P 7UOX 9 9P 7OX 8 8P 7EX 8
    8P 6ZIT 8X 8 8P 8EX 9 9P 7AT 8X 8 8P 7UOX 9 9P 7OT 8X 8 8P 7EX 8 8P 7UT 8X 8 8P 8RX 9 7YT 8X 8
    8P 8RX 9 6CIT 8X 8 8P 8ET 9X 9 9P 7AT 8X 8 8P 7UOX 9 9P 7OT 8X 8 8P 7EX 8 8P 7UT 8X 8 8P 8RX 9
    7YT 8X 8 8P 8RX 9 6ZZIT 9X 9 9P 9ET aX a aP 8AT 9X 9 9P 8OX 9 9P 8EX 9 9P 8UX 9 9P 9RX a 8YT 9X
    9 9P 9RX a 6NZIT 9X 9 9P 9EX a aP 8AT 9X 9 9P 8UOX a 8OX 9P 8EX 9 8UX 9 9P 9RX a 8YT 9X 9 9P 9RX
    a 6SIT 6ev 6SI 8P 8EX 9 9P 7AT 8X 8 8P 7UOX 9 9P 7OT 8X 8 8P 7EX 8 8P 7UT 8X 8 8P 8RX 9 7YT 8X 8
    8P 8RX 9 7SIT 9X 9 9P 9EX a aP 8AT 9X 6qj 6SSAP 8OT 9X 9 9P 8EX 9 9P 8UT 9X 9 9P 8YT 9X 9 9P 9RX
    a 6ZHAT 9X 9 9P 8UOX a aP 8OT 9X 9 9P 8ET 9X 9 9P 8UT 9X 9 9P 9RX a 8YT 9X 9 9P 9RX a 6CHAT 9X
    6ju 6CHAP 8UOT aX a aP 8OT 9X 9 9P 8ET 9X 6zb 6CHEP 8UX 9 9P 9RX a 8YT 9X 9 9P 9RX a 6RRAX 9
    8UOX a 8OT 9X 9 9P 8ET 9X 9 9P 8UT 9X 9 9P 9RX a 8YT 9X 9 9P 9RX a 6NRAT 9X 9 9P 8OX 9 9P 8ET 9X
    9 9P 8UT 9X 9 9P 9RX a 8YT 9X 9 9P 9RX a 6SHAT 9X 6jd 6SHAP 8UOX a aP 8OT 9X 9 9P 8ET 9X 6sn
    6SHEP 8UT 9X 9 9P 9RX a 8YT 9X 9 9P 9RX a 6RAT 8X 8 8P 7UOX 9 9P 7OT 8X 8 8P 7EX 8 8P 7UT 8X 8
    8P 8RX 9 7YT 8X 8 8P 8RX 9 6JIT 8X 8 8P 8ET 9X 9 9P 7UOT 9X 9 9P 7OT 8X 8 8P 7UT 8X 8 8P 8RX 9
    7YT 8X 8 8P 8RX 9 6QIT 8X 8 8P 8ET 9X 9 9P 7UOT 9X 9 9P 7OT 8X 8 8P 7UT 8X 8 8P 8RX 9 7YT 8X 8
    8P 8RX 9 6JJIT 9X 9 9P 9ET aX a aP 8UOX a aP 8OT 9X 9 9P 8UT 9X 9 9P 9RX a 8YT 9X 9 9P 6NJIT 9X
    9 9P 9ET aX a aP 8UOX a 8OT 9X 9 9P 8UX 9 9P 9RX a 8YT 9X 9 9P 9RX a 7YIT 9X 9 9P 9ET aX a aP
    8UOX a aP 8OT 9X 9 9P 8UT 9X 9 9P 6XIT 8X 8 8P 8ET 9X 9 9P 7UOX 9 7OT 8X 8 8P 7YT 8X 8 8P 8RX 9
    6YIT 8X 8 8P 8ET 9X 9 9P 7UOT 9X 9 9P 7OT 8X 8 8P 7UT 8X 8 8P 8RX 9 7YT 8X 8 8P 8RX 9
    4:3RADICAL+QOT bLI bKIT bNYIP bCYP bSSI bGGOP cEP bMI bHXIT bLYR bBBUT bMOP bYO bPUT bHXUO bTAT
    bGA bZUP bCYT bDDUR bBUR bGGUO bNYOP bTU bOP bJJUT bZOT bPYT bHMO bYIT bVUR bSHY bVEP bZA bJO
    bNZUP bJJY bGOT bJJIE bWO bDU bSHUR bLIE bCY cUOP cIP bHXOP bSHAT bZUR bSHOP bzb bZZIET bNBIE
    bKE a:0LISU+a+BA 7PA 7lv 7DA 7TA 7lc 7GA 7KA 7ke 7JA 7CA 7ju 7DZA 7uk 7vb 7MA 7NA 7LA 7SA 7ZHA
    8A 7jc 7HA 7XA 7HHA 7FA 7WA 7jd 7YA 7nu 7A 8E 7E 8U 7I 7O 7U 8E 8H 7OE 7el+MYA+TI aNA+PO
    aMYA+CYA eBO eNA eJEU 5bc+dp 8hd+fb 0VAI+hv+EE 9N 7HEE 7WEE aN 7PEE 7BHEE 8EE 7MBEE 7KPEE 7MGBEE
    7GBEE 7FEE 7VEE 7TEE 8HEE 7DHEE 9HEE 7LEE 7REE 7DEE 7NDEE 7SEE 8HEE 7ZEE 8HEE 7CEE 7JEE 7NJEE
    7YEE 7KEE 7NGGEE 7GEE 7MEE 7NEE 8YEE 7I 8N 7HI 9N 7WI 9N 7PI 7BHI 8I 7MBI 7KPI 7MGBI 7GBI 7FI
    7VI 7TI 8HI 7DHI 9HI 7LI 7RI 7DI 7NDI 7SI 8HI 7ZI 8HI 7CI 7JI 7NJI 7YI 7KI 7NGGI 7GI 7MI 7NI 8YI
    7A 8N 7NGAN 7HA 9N 7WA 9N 7PA 7ow 7BA 7MBA 7KPA aN 7MGBA 7GBA 7FA 7VA 7TA 7lc 7nt 7DHHA 7LA 7RA
    7DA 7NDA 7SA 7jd 7ZA 8HA 7CA 7JA 7NJA 7YA 7KA 9N 7NGGA 7GA 7MA 7NA 7jz 7OO 9N 7HOO 7WOO aN 7POO
    7BHOO 8OO 7MBOO 7KPOO 7MGBOO 7GBOO 7FOO 7VOO 7TOO 8HOO 7DHOO 9HOO 7LOO 7ROO 7DOO 7NDOO 7SOO 8HOO
    7ZOO 8HOO 7COO 7JOO 7NJOO 7YOO 7KOO 7NGGOO 7GOO 7MOO 7NOO 8YOO 7U 8N 7HU 9N 7WU 9N 7PU 7BHU 8U
    7MBU 7KPU 7MGBU 7GBU 7FU 7VU 7TU 8HU 7DHU 9HU 7LU 7RU 7DU 7NDU 7SU 8HU 7ZU 8HU 7CU 7JU 7NJU 7YU
    7KU 7NGGU 7GU 7MU 7NU 8YU 7O 8N 7NGON 7HO 9N 7WO 9N 7PO 7BHO 8O 7MBO 7KPO 7MGBO 7GBO aN 7FO 7VO
    7TO 8HO 7DHO 9HO 7LO 7RO 7DO 7NDO 7SO 8HO 7ZO 8HO 7CO 7JO 7NJO 7YO 7KO 7NGGO 7GO 7MO 7NO 8YO 7E
    8N 7NGEN 7HE 9N 7WE 9N 7PE 7BHE 8E 7MBE 7KPE aN 7MGBE 7GBE aN 7FE 7VE 7TE 7qn 7DHE 9HE 7LE 7RE
    7DE 7NDE 7SE 7sn 7ZE 8HE 7CE 7JE 7NJE 7YE 7KE 7NGGE bN 7GE 9N 7ME 7NE 8YE 8G 7xz 4dp 4hd+fb
    4eb+aj 4hv+NDOLE+FA dKA dSOO 4w+FEENG 6KEENG 6TING 6NII 6BANG 6FAA 6TAA 6DANG 7OONG 6KUNG 6TONG
    6DO-O 6JONG 4br+du 7bs 8n 7t 7at 8y 7ev 7au 8r 7cj 4hv+NDOLE+MA dDO 15:0it+c+a+ZEMLYA
    3d+a+ZEMLYA 3c+a+DZELO 3d+a+DZELO 3c+a+aq+DZE 3d+a+aq+DZE 3c+a+ks 3d+a+ks 3c+a+DJERV 3d+a+DJERV
    3c+a+MONOGRAPH+UK 3d+a+MONOGRAPH+UK 3c+a+BROAD+gm 3d+a+BROAD+gm 3c+a+gy+YER 3d+a+gy+YER
    3c+a+YERU+b+ze+YER 3d+a+YERU+b+ze+YER 3c+a+hu+YAT 3d+a+hu+YAT 3c+a+aq+YU 3d+a+aq+YU 3c+a+hu+A
    3d+a+hu+A 3c+a+fk+db+vf 3d+a+fk+db+vf 3c+a+BLENDED+vf 3d+a+BLENDED+vf 3c+a+hu+fk+db+vf
    3d+a+hu+fk+db+vf 3c+a+YN 3d+a+YN 3c+a+aq+TSE 3d+a+aq+TSE 3c+a+wk+DE 3d+a+wk+DE 3c+a+wk+EL
    3d+a+wk+EL 3c+a+wk+EM 3d+a+wk+EM 3c+a+MONOCULAR+O 3d+a+MONOCULAR+O 3c+a+BINOCULAR+O
    3d+a+BINOCULAR+O 3c+a+l+MONOCULAR+O 3d+a+l+MONOCULAR+O 3a+MULTIOCULAR+O 0ck+it+VZMET 6ik+re+g
    6ab+re+g 7c+re+g 0SLAVONIC+ch 0ck+it+a+UKRAINIAN+IE 8I 8YI 8U 8HARD+g 8YERU 8wk+g 8gm 6KAVYKA
    6PAYEROK 0it+KAVYKA 3PAYEROK 3c+a+DWE 3d+a+DWE 3c+a+DZWE 3d+a+DZWE 3c+a+ZHWE 3d+a+ZHWE 3c+a+CCHE
    3d+a+CCHE 3c+a+DZZE 3d+a+DZZE 3c+a+TE+b+ad+av 3d+a+TE+b+ad+av 3c+a+TWE 3d+a+TWE 3c+a+TSWE
    3d+a+TSWE 3c+a+TSSE 3d+a+TSSE 3c+a+TCHE 3d+a+TCHE 3c+a+HWE 3d+a+HWE 3c+a+SHWE 3d+a+SHWE 3c+a+l+O
    3d+a+l+O 3c+a+ko+O 3d+a+ko+O 0dx+a+it+HARD+g 8wk+g 0ck+it+a+EF 8hu+E 0BAMUM+a+A 8KA 8U 8KU 8EE
    8REE 8TAE 8O 8NYI 8I 8LA 8PA 8RII aEE 8LEEEE 8MEEEE 8TAA 8NDAA 9JAEM 8M 8SUU 8MU 8SHII 9I 9HEUX
    9EUX 8KYEE 9ET 8NUAE a 9JUAE 8YOQ 8SHU 8YUQ 9A 8NSHA 8KEUX 8PEUX 8NJEE 9TEE 8PUE 8WUE 8PEE 8FEE
    8RU 8LU 8MI 8NI 8REUX 9AE 8KEN 8NGKWAEN aGA 8jc 8SHO 8PUAE 8FU 9OM 8WA 8NA 8LI 8PI 8LOQ 8KO
    8MBEN 8REN 8MEN 9A 8TI 8KI 8MO 9BAA 8TET 8KPA 8ik 8NTUU 8SAMBA 8FAAMAE 8KOVUU aGHOM
    6ck+aj+KOQNDON cTUKWENTIS 6NJAEMLI 6hd+fb 7s 6dp 6ix 6eb+aj 9:0dx+a+CHINESE+el+YIN+PING gzw+PING
    gYIN+SHANG gzw+SHANG gYIN+QU gzw+QU gYIN+RU gzw+RU 5xk+ey+el+fa 5ew+ey+el+fa 5MID+ey+el+fa
    5hl+ey+el+fa 5EXTRA-LOW+ey+el+fa 5xk+ey+ki+el+fa 5ew+ey+ki+el+fa 5MID+ey+ki+el+fa
    5hl+ey+ki+el+fa 5EXTRA-LOW+ey+ki+el+fa 5xk+ki+el+fa 5ew+ki+el+fa 5MID+ki+el+fa 5hl+ki+el+fa
    5EXTRA-LOW+ki+el+fa 5bw+r+fa 8oh 8y+fa 6t+h+fy+eo 5hf+UP+f 8cb+f 9y+aj 8ba+cy+aj 6l+ba+cy+aj
    5STRESS+p+ew+el ehl+el 0es+c+a+sf+da 3d+a+sf+da 3c+a+sf+sp 3d+a+sf+sp 3c+a+HENG 3d+a+HENG
    3c+a+TZ 3d+a+TZ 3c+a+TRESILLO 3d+a+TRESILLO 3c+a+zz 3d+a+zz 3c+a+zz+b+dp 3d+a+zz+b+dp 3a+d+c+F
    9S 3c+a+AA 3d+a+AA 3c+a+AO 3d+a+AO 3c+a+AU 3d+a+AU 3c+a+AV 3d+a+AV 3c+a+AV+b+y+fa 3d+a+AV+b+y+fa
    3c+a+AY 3d+a+AY 3c+a+aq+C+b+bw 3d+a+aq+C+b+bw 3c+a+K+b+u 3d+a+K+b+u 3c+a+K+b+cm+u 3d+a+K+b+cm+u
    3c+a+K+b+u+p+cm+u 3d+a+K+b+u+p+cm+u 3c+a+BROKEN+L 3d+a+BROKEN+L 3c+a+L+b+ew+u 3d+a+L+b+ew+u
    3c+a+O+b+eh+u+go 3d+a+O+b+eh+u+go 3c+a+O+b+sc 3d+a+O+b+sc 3c+a+OO 3d+a+OO 3c+a+P+b+u+ka+cg
    3d+a+P+b+u+ka+cg 3c+a+P+b+xm 3d+a+P+b+xm 3c+a+P+b+SQUIRREL+gu 3d+a+P+b+SQUIRREL+gu
    3c+a+Q+b+u+ka+cg 3d+a+Q+b+u+ka+cg 3c+a+Q+b+cm+u 3d+a+Q+b+cm+u 3c+a+R+ROTUNDA 3d+a+R+ROTUNDA
    3c+a+RUM+ROTUNDA 3d+a+RUM+ROTUNDA 3c+a+V+b+cm+u 3d+a+V+b+cm+u 3c+a+VY 3d+a+VY 3c+a+VISIGOTHIC+Z
    3d+a+VISIGOTHIC+Z 3c+a+THORN+b+u 3d+a+THORN+b+u 3c+a+THORN+b+u+ka+cg 3d+a+THORN+b+u+ka+cg
    3c+a+VEND 3d+a+VEND 3c+a+ET 3d+a+ET 3c+a+IS 3d+a+IS 3c+a+CON 3d+a+CON 0dx+a+US 0es+d+a+DUM 7LUM
    7MUM 7NUM 7RUM 3a+d+c+RUM 3d+a+TUM 7UM 3c+a+ia+D 3d+a+ia+D 3c+a+ia+F 3d+a+ia+F 3c+a+ia+G
    7bh+ia+G 3d+a+bh+ia+G 3c+a+bh+L 3d+a+bh+L 3c+a+ia+R 3d+a+ia+R 3c+a+ia+S 3d+a+ia+S 3c+a+ia+T
    3d+a+ia+T 0dx+a+hl+af+eu 6s 5et+fl+g 0es+c+a+SALTILLO 3d+a+SALTILLO 3c+a+bh+H
    3d+a+L+b+bz+av+p+BELT 3a+SINOLOGICAL+bw 3c+a+N+b+cg 3d+a+N+b+cg 3c+a+C+b+fa 3d+a+C+b+fa ch+av
    7H+b+fh+av 3c+a+B+b+xm 3d+a+B+b+xm 3c+a+F+b+u 3d+a+F+b+u 3c+a+wx+AE 3d+a+wx+AE 3c+a+wx+OE
    3d+a+wx+OE 3c+a+wx+UE 3d+a+wx+UE 3c+a+G+b+jp+u 3d+a+G+b+jp+u 3c+a+K+b+jp+u 3d+a+K+b+jp+u
    3c+a+N+b+jp+u 3d+a+N+b+jp+u 3c+a+R+b+jp+u 3d+a+R+b+jp+u 3c+a+S+b+jp+u 3d+a+S+b+jp+u 3c+a+H+b+av
    7aq+ed+E 7hn+G 7L+b+BELT 7d+c+I 3a+d+c+Q 3c+a+bh+K aT 7J+b+im 7zc 7qs 3d+a+qs 3c+a+gm 3d+a+gm
    3c+a+U+b+u 3d+a+U+b+u 3c+a+fp+A 3d+a+fp+A 3c+a+fp+I 3d+a+fp+I 3c+a+fp+U 3d+a+fp+U
    3c+a+ma+POLISH+O 3d+a+ma+POLISH+O 3c+a+ANGLICANA+W 3d+a+ANGLICANA+W 3c+a+C+b+fh+av 7S+b+av
    7Z+b+fh+av 7D+b+et+u+go 3d+a+D+b+et+u+go 3c+a+S+b+et+u+go 3d+a+S+b+et+u+go 6:3c+a+fk+ia+G
    3d+a+fk+ia+G 2:7l+THORN 2:9WYNN 3c+a+ad+SCOTS+S 3d+a+ad+SCOTS+S 3c+a+SIGMOID+S 3d+a+SIGMOID+S
    19:0dx+a+c+C 7F 7Q 0es+c+a+aq+cc+H 3d+a+aq+cc+H 3EPIGRAPHIC+a+nn+I 0dx+a+c+H+b+u 5d+dj+OE
    0es+a+d+c+bh+M 3EPIGRAPHIC+a+aq+F jP gba+M gI+LONGA ghq+M 0SYLOTI+NAGRI+a+A fI dg+DVISVARA da+U
    fE fO dg+HASANTA da+KO gHO fGO gHO dg+bv da+CO gHO fJO gHO fTTO hHO fDDO hHO fTO gHO fDO gHO fNO
    fPO gHO fBO gHO fMO fRO fLO fRRO fSO fHO dbm+g+A iI iU iE iOO dPOETRY+MARK-1 p2 p3 p4
    dg+ep+HASANTA 4:0fe+INDIC+gq+bs+ek fcc ct+ig cbs+rv fhb ct+yq 9ek+aj 9PLACEHOLDER+aj 9RUPEE+aj
    9QUANTITY+aj 7:0PHAGS-PA+a+KA bke bGA bjc bCA bju bJA bjz bTA blc bDA bNA bPA blv bBA bMA buk
    bvb bDZA bWA bZHA cA bd+A bYA bRA bLA bjd bSA bHA bA bI bU bE bO bQA bXA bFA bGGA bEE 9rx+a+WA
    eYA 9a+na bii bng bos bep+YA bVOICELESS+jd brl+HA bASPIRATED+FA 9rx+a+RA 9SUPERFIXED+a+RA 9a+ci
    9ce+qx+aj 9l+qx+aj 9aj+ua cl+ua 9:0SAURASHTRA+g+bv ddv ba+A eA dI eI dU eU dby+R hR gL hL dE eE
    dAI dO eO dAU dKA dke dGA dnu djc dCA dju dJA drr djz dna dii dng diu dos dTA dlc dDA dnt dNA
    dPA dlv dBA dow dMA dYA dRA dLA dVA djd dqj dSA dHA dwg beq+g+HAARU bbm+g+AA gI hI gU hU gby+R
    kR jL kL gE hE gAI gO hO gAU bg+en dci 9:bhz bl+hz bbr+du ebs fn et eat fy eev eau fr ecj
    7:0ck+DEVANAGARI+br+du hbs in ht hat iy hev hau ir hcj ea+A gU gKA gNA gPA gRA gVI eg+hr
    0DEVANAGARI+g+SPACING+ci dci+en dl+ci+en dci+bn gt ghr dPUSHPIKA bGAP+st bvk bHEADSTROKE bg+ub
    bJAIN+OM ba+AY bbm+g+AY 0KAYAH+LI+br+du cbs dn ct cat dy cev cau dr ccj 9a+KA bke bGA bjc bSA
    bjd bZA bjz bTA bHTA bNA bPA blv bMA bDA bBA bRA bYA bLA bWA blc bHA bVA bCA bA bOE bI bOO
    9bm+UE cE cU cEE cO 9el+PLOPHU cCALYA h+PLOPHU 9g+CWI bSHYA 0REJANG+a+KA 9GA 9jc 9TA 9DA 9NA 9PA
    9BA 9MA 9CA 9JA 9jz 9SA 9RA 9LA 9YA 9WA 9HA 9MBA 9NGGA aDA aYJA 9A 7bm+g+I cU cE cAI cO cAU cEU
    dA 7eq+g+NG d cR cH 8n c:7gi+aj 0sv+CHOSEONG+TIKEUT-MIEUM jPIEUP jSIOS jCIEUC ctx
    cRIEUL-SSANGKIYEOK iTIKEUT iSSANGTIKEUT cvt du cRIEUL-SSANGPIEUP iKAPYEOUNPIEUP cyl cRIEUL-CIEUC
    iKHIEUKH cMIEUM-KIYEOK iTIKEUT iSIOS cPIEUP-SIOS-THIEUTH iKHIEUKH iHIEUH cSSANGSIOS-PIEUP
    cIEUNG-RIEUL iHIEUH cSSANGCIEUC-HIEUH hTHIEUTH cPHIEUPH-HIEUH cHIEUH-SIOS cSSANGYEORINHIEUH
    4:0JAVANESE+g+PANYANGGA bCECAK bLAYAR bWIGNYAN 9a+A bI+KAWI c cI bU bPA+CEREK bjc+LELET
    j+RASWADI bE bAI bO bKA d+SASAK etu bGA d+tu bjc bCA d+tu bJA bjz+tu bJA+mx bjz bna d+mx cg d+mx
    bNA+tu bTA d+tu bDA d+mx bNA bPA d+tu bBA d+tu bMA bYA bRA d+AGUNG bLA bWA bSA+tu emx d bHA
    9g+CECAK+TELU 9bm+g+TARUNG fOLONG eWULU i+MELIK eSUKU i+MENDUT eTALING eDIRGA+MURE ePEPET
    9eq+g+KERET ePENGKAL eCAKRA 9PANGKON 9o+RERENGGAN 9h+RERENGGAN 9PADA+ANDAP eMADYA eLUHUR eWINDU
    ePANGKAT eLINGSA fUNGSI eADEG i+ADEG ePISELEH 9bh+PADA+PISELEH 2:9PANGRANGKEP 9br+du cbs dn ct
    cat dy cev cau dr ccj 5:9PADA+TIRTA+TUMETES eISEN-ISEN 0MYANMAR+a+SHAN+nu fju frr fos gw
    8g+SHAN+SAW 8dx+a+SHAN+REDUPLICATION 8a+TAI+LAING+jz kFA kGA knu kJA krr kng kiu kos
    8TAI+LAING+br+du lbs mn lt lat my lev lau mr lcj 8a+TAI+LAING+wg kDA knt kBA kow 2:0CHAM+a+A 7I
    7U 7E 7AI 7O 7KA 7ke 7GA 7nu 7NGUE 7jc 8u 7CHHA 7JA 7rr 7NHUE 9A 9JA 7TA 7lc 7DA 7nt 7NUE 8A 7ng
    7PA 8PA 7lv 7BA 7ow 7MUE 8A 7BBA 7YA 7RA 7LA 7VA 7qj 7SA 7HA 5bm+g+AA aI bI aEI aU aOE b aAI bU
    aUE 5eq+g+YA aRA aLA aWA a:5a+n+K 9G 9NG 5eq+g+n+NG 5a+n+CH 9T 9N 9P 9Y 9R 9L 9SS 5eq+g+n+M cH
    3:5br+du 8bs 9n 8t 8at 9y 8ev 8au 9r 8cj 3:6c+SPIRAL 8hz 8l+hz 8dr+hz 0MYANMAR+a+KHAMTI+GA hCA
    hju hJA hrr hjz hna hii hng hiu hnt hNA hSA hHA iHA hFA 8dx+a+KHAMTI+REDUPLICATION 8a+KHAMTI+XA
    hZA hRA 8ya+KHAMTI+OAY iQN iHM 8w+AITON+cy gbs hn 8a+AITON+RA 8g+PAO+xw+el aTAI+LAING+TONE-2 p5
    8a+SHWE+PALAUNG+ju od 0TAI+VIET+a+hl+KO bew+KO bhl+KHO bew+KHO bhl+KHHO bew+KHHO bhl+GO bew+GO
    bhl+NGO bew+NGO bhl+CO bew+CO bhl+CHO bew+CHO bhl+SO bew+SO bhl+NYO bew+NYO bhl+DO bew+DO bhl+TO
    bew+TO bhl+THO bew+THO bhl+NO bew+NO bhl+BO bew+BO bhl+PO bew+PO bhl+PHO bew+PHO bhl+FO bew+FO
    bhl+MO bew+MO bhl+YO bew+YO bhl+RO bew+RO bhl+LO bew+LO bhl+VO bew+VO bhl+HO bew+HO bhl+O bew+O
    9MAI+KANG 9bm+AA cI cUE d cE cO 9MAI+KHIT 9bm+IA cUEA dA cAUE dY dN dM 9el+MAI+EK gNUENG gTHO
    gSONG 19:9w+KON bNUENG bSAM bHO+HOI bKOI+KOI 0MEETEI+MAYEK+a+E fO fju gz fna fii fng fiu fos fjd
    fqj dbm+g+II iUU iAAI jU jAU dCHEIKHAN dAHANG+KHUDAM eNJI dhv+REPETITION+aj dvd+REPETITION+aj
    dbm+g+dv den b:0ETHIOPIC+hv+TTHU fI fAA fEE g fO 3:cDDHU fI fAA fEE g fO 3:dZU eI eAA eEE f eO
    a:cCCHHA gU gI gAA gEE h gO 2:cBBA eU eI eAA eEE f eO 2:0es+d+a+qq+hi 7A+REVERSED-SCHWA
    7BLACKLETTER+E 7qq+E 7E+b+xm 7LENIS+F 7hn+G+b+im 7L+b+ba+LAZY+S bl+ad+bq bad+dh 7M+b+im 7N+b+im
    7ENG+b+im 7BLACKLETTER+O k+b+u 7ed+O+b+u 7ba+OE 8h+OE+b+u fy+u b+OPEN-O i+b+u 7STIRRUP+R
    3a+d+c+R+b+h+LEG 3d+a+R+WITHOUT+HANDLE 7l+R 7R+b+im 7l+R+b+im 7hn+R b+b+dh 7BASELINE+ESH
    7U+b+et+h+LEG 9fa+b+et+h+LEG 8I 7bh+UI 7U+b+o+av 7zc 9+b+hl+h+dh fo+SERIF 7X+b+hl+h+dh beh+o+LEG
    j+p+hl+h+dh kb+SERIF 7Y+b+et+h+LEG 0dx+ee+b+ba+ee 3a+d+HENG 7L+b+ba+LAZY+S bad+bq 7U+b+o+av
    0es+d+a+SAKHA+YAT 7hu+E 7ed+OE 7UO 7ba+hi 0jg+a+d+c+gm 0es+d+a+DZ+fo+b+bz+av 7TS+fo+b+bz+av
    7bh+R+b+ad+bq 0dx+a+d+bh+W 5o+jx 5h+jx 5:0CHEROKEE+d+a+A dE dI dO dU dV dGA dKA dGE eI eO eU eV
    dHA eE eI eO eU eV dLA eE eI eO eU eV dMA eE eI eO eU dNA dHNA dNAH eE eI eO eU eV dQUA fE fI fO
    fU fV dSA e eE eI eO eU eV dDA dTA dDE dTE dDI dTI dDO eU eV eLA dTLA fE fI fO fU fV duk dTSE fI
    fO fU fV dWA eE eI eO eU eV dYA 0MEETEI+MAYEK+a+KOK fSAM fLAI fMIT fPA fNA fCHIL fTIL fKHOU
    fNGOU fTHOU fWAI fzw fHUK fUN fI fPHAM fATIYA fGOK fJHAM fRAI fBA fJIL fDIL fGHOU fDHOU fBHAM
    fKOK+uu fLAI+uu fMIT+uu fPA+uu fNA+uu fTIL+uu fNGOU+uu fI+uu dbm+g+ONAP iINAP iANAP iYENAP
    iSOUNAP iUNAP iCHEINAP iNUNG dCHEIKHEI dLUM+IYEK dAPUN+IYEK 3:dbr+du gbs hn gt gat hy gev gau hr
    gcj 2bb7:0sv+JUNGSEONG+O-YEO fO-I dYO-A hE gEO dU-YEO fI-I dYU-AE gO dEU-A gEO h gO dI-YA-O hE
    gEO h fO-I fYO gU fI dARAEA-A jE 5:4ONGSEONG+NIEUN-RIEUL jCHIEUCH dvy dSSANGTIKEUT-PIEUP
    dTIKEUT-PIEUP kSIOS o-KIYEOK kCIEUC lHIEUCH kTHIEUTH dRIEUL-SSANGKIYEOK jKIYEOK-HIEUH
    dSSANGRIEUL-KHIEUKH dRIEUL-MIEUM-HIEUH jPIEUP-TIKEUT pPHIEUPH jYESIEUNG lORINHIEUH-HIEUH
    dKAPYEOUNRIEUL dMIEUM-NIEUN jSSANGNIEUN dSSANGMIEUM dMIEUM-PIEUP-SIOS jCIEUC dPIEUP-TIKEUT
    jRIEUL-PHIEUPH jMIEUM dyt dtv dPIEUP-CIEUC kHIEUCH dSIOS-MIEUM iKAPYEOUNPIEUP eSANGSIOS-KIYEOK
    nTIKEUT eIOS-PANSIOS iCIEUC jHIEUCH iTHIEUTH iHIEUH dPANSIOS-PIEUP lKAPYEOUNPIEUP
    dYESIEUNG-MIEUM mHIEUH dCIEUC-PIEUP jSSANGPIEUP dys dPHIEUPH-SIOS lTHIEUTH 2305:0es+d+dj+FF 9I
    9L 9FI aL 8eh+S+T 8ST d:0wz+d+dj+MEN+NOW cECH cINI 8VEW+NOW 8MEN+XEH 6:0HEBREW+a+YOD+b+HIRIQ
    7ri+JUDEO-SPANISH+VARIKA 7dj+YIDDISH+YOD+YOD+PATAH 7a+ALTERNATIVE+zd 9WIDE+da eDALET eHE euj
    eLAMED en+MEM eyk eTAV 9ALTERNATIVE+bx+g 9lf+b+lf+bw eSIN+bw ehx+p+lf+bw jSIN+bw 9da+b+PATAH
    eQAMATS eMAPIQ 9BET+b+hx 9ny+b+hx 9DALET+b+hx 9HE+b+MAPIQ 9VAV+b+hx 9qk+b+hx 2:9TET+b+hx
    9YOD+b+hx 9n+uj+b+hx 9uj+b+hx 9LAMED+b+hx 2:9MEM+b+hx 2:9nv+b+hx 9lb+b+hx 2:9n+PE+b+hx 9PE+b+hx
    2:9TSADI+b+hx 9QOF+b+hx 9yk+b+hx 9lf+b+hx 9TAV+b+hx 9VAV+b+HOLAM 9BET+b+RAFE 9uj+b+RAFE
    9PE+b+RAFE 7dj+da+LAMED 0jf+a+da+WASLA+j+e en+e 5BEEH+j+e an+e as+e abf+e 5PEH+j+e 9n+e 9s+e
    9bf+e 5BEHEH+j+e bn+e bs+e bbf+e 5TTEHEH+j+e cn+e cs+e cbf+e 6EHEH+j+e bn+e bs+e bbf+e 6TEH+j+e
    an+e as+e abf+e 5VEH+j+e 9n+e 9s+e 9bf+e 5PEHEH+j+e bn+e bs+e bbf+e 5DYEH+j+e an+e as+e abf+e
    5NYEH+j+e an+e as+e abf+e 5TCHEH+j+e bn+e bs+e bbf+e aEH+j+e dn+e ds+e dbf+e 5DDAHAL+j+e cn+e
    6AHAL+j+e bn+e 6UL+j+e 9n+e 6DAL+j+e an+e 5JEH+j+e 9n+e 5RREH+j+e an+e 5KEHEH+j+e bn+e bs+e
    bbf+e 5GAF+j+e 9n+e 9s+e 9bf+e 6UEH+j+e an+e as+e abf+e 5NGOEH+j+e bn+e bs+e bbf+e
    5iz+GHUNNA+j+e fn+e 5RNOON+j+e bn+e bs+e bbf+e 5up+b+gf+i+j+e fn+e 8GOAL+j+e dn+e ds+e dbf+e
    8DOACHASHMEE+j+e kn+e ks+e kbf+e 5gf+BARREE+j+e fn+e fb+gx+i+j+e mn+e 3w+bw+i 8m 6n+cu+i bm
    5t+cu+i am abb+aa+i gm 5at+cu+i bm 5l+r+fa+m 5bn+cu+ns+i em 5dh 6+vz+i am 5WASLA+i 11:3a+NG+j+e
    8n+e 8s+e 8bf+e 5U+j+e 7n+e 5OE+j+e 8n+e 5YU+j+e 8n+e 5U+b+gx+i+j+e 5VE+j+e 8n+e 5KIRGHIZ+OE+j+e
    gn+e dYU+j+e gn+e 5E+j+e 7n+e 7s+e 7bf+e 5UIGHUR+KAZAKH+KIRGHIZ+da+bg+s+e xbf+e
    3dj+gf+b+gx+i+b+da+j+e ln+e iAE+j+e ln+e iqo+j+e ln+e iU+j+e kn+e iOE+j+e ln+e iYU+j+e ln+e
    iE+j+e kn+e ks+e 6UIGHUR+KIRGHIZ+gf+b+gx+i+b+da+bg+j+e z+bg+n+e z+bg+s+e 3a+FARSI+gf+j+e en+e
    es+e ebf+e 3dj+gf+b+gx+i+b+eg+j+e iht+j+e ibu+j+e ida+bg+j+e igf+j+e 6BEH+b+eg+j+e cht+j+e
    cgv+j+e cbu+j+e cda+bg+j+e cgf+j+e 6TEH+b+eg+j+e cht+j+e cgv+j+e cbu+j+e cda+bg+j+e cgf+j+e
    6zt+b+eg+j+e bbu+j+e bda+bg+j+e bgf+j+e 6eg+b+ht+j+e bbu+j+e 6ht+b+eg+j+e bbu+j+e 6gv+b+eg+j+e
    bht+j+e bbu+j+e 6mc+b+eg+j+e bht+j+e bgv+j+e bbu+j+e 6zs+b+ht+j+e bbu+j+e 6DAD+b+eg+j+e cht+j+e
    cgv+j+e cbu+j+e 6vz+b+ht+j+e bbu+j+e 6ZAH+b+bu+j+e 6sp+b+eg+j+e bbu+j+e 6nj+b+eg+j+e bbu+j+e
    6zg+b+eg+j+e bht+j+e bgv+j+e bbu+j+e bda+bg+j+e bgf+j+e 6ww+b+ht+j+e bbu+j+e bda+bg+j+e bgf+j+e
    6uj+b+da+j+e beg+j+e bht+j+e bgv+j+e brc+j+e bbu+j+e bda+bg+j+e bgf+j+e 6rc+b+eg+j+e bht+j+e
    bgv+j+e bbu+j+e bda+bg+j+e bgf+j+e 6bu+b+eg+j+e bht+j+e bgv+j+e bbu+j+e bda+bg+j+e bgf+j+e
    6iz+b+eg+j+e bht+j+e bgv+j+e bbu+j+e bda+bg+j+e bgf+j+e 6up+b+eg+j+e bbu+j+e bda+bg+j+e bgf+j+e
    6gf+b+eg+j+e bht+j+e bgv+j+e bbu+j+e bda+bg+j+e bgf+j+e 6THAL+b+gt+da+j+e 6tw+b+gt+da+j+e
    6da+bg+b+gt+da+j+e 6SHADDA+b+xi+j+e gx+j+e fsg+j+e fvl+j+e frb+j+e fgt+da+j+e
    6gf+b+gx+i+b+tw+n+e ivg+n+e ibu+n+e iiz+n+e ida+bg+n+e igf+n+e 6BEH+b+tw+n+e cvg+n+e cbu+n+e
    ciz+n+e cda+bg+n+e cgf+n+e 6TEH+b+tw+n+e cvg+n+e cbu+n+e ciz+n+e cda+bg+n+e cgf+n+e 6zt+b+tw+n+e
    bvg+n+e bbu+n+e biz+n+e bda+bg+n+e bgf+n+e 7g+b+da+bg+n+e bgf+n+e 6ww+b+da+bg+n+e bgf+n+e
    6uj+b+da+n+e brc+n+e bbu+n+e bda+bg+n+e bgf+n+e 6rc+b+bu+n+e bda+bg+n+e bgf+n+e 6bu+b+da+n+e
    bbu+n+e 6iz+b+tw+n+e bvg+n+e bbu+n+e biz+n+e bda+bg+n+e bgf+n+e 6da+bg+b+gt+da+n+e 6gf+b+tw+n+e
    bvg+n+e bbu+n+e biz+n+e bda+bg+n+e bgf+n+e cx+i+b+eg+s+e iht+s+e igv+s+e ibu+s+e iup+s+e
    6BEH+b+eg+s+e cht+s+e cgv+s+e cbu+s+e cup+s+e 6TEH+b+eg+s+e cht+s+e cgv+s+e cbu+s+e cup+s+e
    6zt+b+bu+s+e 6eg+b+ht+s+e bbu+s+e 6ht+b+eg+s+e bbu+s+e 6gv+b+eg+s+e bbu+s+e 6mc+b+eg+s+e bht+s+e
    bgv+s+e bbu+s+e 6zs+b+ht+s+e bgv+s+e bbu+s+e 6DAD+b+eg+s+e cht+s+e cgv+s+e cbu+s+e 6vz+b+ht+s+e
    6ZAH+b+bu+s+e 6sp+b+eg+s+e bbu+s+e 6nj+b+eg+s+e bbu+s+e 6zg+b+eg+s+e bht+s+e bgv+s+e bbu+s+e
    6ww+b+ht+s+e bbu+s+e 6uj+b+eg+s+e bht+s+e bgv+s+e brc+s+e bbu+s+e 6rc+b+eg+s+e bht+s+e bgv+s+e
    bbu+s+e bup+s+e 6bu+b+eg+s+e bht+s+e bgv+s+e bbu+s+e 6iz+b+eg+s+e bht+s+e bgv+s+e bbu+s+e
    bup+s+e 6up+b+eg+s+e bbu+s+e bgt+da+s+e 6gf+b+eg+s+e bht+s+e bgv+s+e bbu+s+e bup+s+e
    bgx+i+b+bu+bf+e iup+bf+e 6BEH+b+bu+bf+e cup+bf+e 6TEH+b+bu+bf+e cup+bf+e 6zt+b+bu+bf+e bup+bf+e
    6mc+b+bu+bf+e bup+bf+e 6lw+b+bu+bf+e bup+bf+e 6uj+b+rc+bf+e bbu+bf+e 6rc+b+bu+bf+e 6iz+b+bu+bf+e
    bup+bf+e 6gf+b+bu+bf+e bup+bf+e 6SHADDA+b+sg+bf+e fvl+bf+e frb+bf+e 6vz+b+da+bg+j+e bgf+j+e
    6sp+b+da+bg+j+e bgf+j+e 6nj+b+da+bg+j+e bgf+j+e 6mc+b+da+bg+j+e bgf+j+e 6lw+b+da+bg+j+e bgf+j+e
    6ht+b+da+bg+j+e bgf+j+e 6eg+b+da+bg+j+e bgf+j+e 6gv+b+da+bg+j+e bgf+j+e 6zs+b+da+bg+j+e bgf+j+e
    6DAD+b+da+bg+j+e cgf+j+e 6lw+b+eg+j+e bht+j+e bgv+j+e bbu+j+e btw+j+e 6mc+b+tw+j+e 6zs+b+tw+j+e
    6DAD+b+tw+j+e 6vz+b+da+bg+n+e bgf+n+e 6sp+b+da+bg+n+e bgf+n+e 6nj+b+da+bg+n+e bgf+n+e
    6mc+b+da+bg+n+e bgf+n+e 6lw+b+da+bg+n+e bgf+n+e 6ht+b+da+bg+n+e bgf+n+e 6eg+b+da+bg+n+e bgf+n+e
    6gv+b+da+bg+n+e bgf+n+e 6zs+b+da+bg+n+e bgf+n+e 6DAD+b+da+bg+n+e cgf+n+e 6lw+b+eg+n+e bht+n+e
    bgv+n+e bbu+n+e btw+n+e 6mc+b+tw+n+e 6zs+b+tw+n+e 6DAD+b+tw+n+e 6lw+b+eg+s+e bht+s+e bgv+s+e
    bbu+s+e 6mc+b+up+s+e 6lw+b+up+s+e 6vz+b+bu+s+e 6mc+b+eg+bf+e bht+bf+e bgv+bf+e 6lw+b+eg+bf+e
    bht+bf+e bgv+bf+e 6vz+b+bu+bf+e 6ZAH+b+bu+bf+e 6da+b+ti+n+e ej+e 0ORNATE+o+bd 7h+bd
    0jf+dj+RAHIMAHU+ALLAAH 8DI+ALLAAHU+ANH mAA mUM oAA nNNA 6SALLALLAAHU+ALAYHI+WA-AALIH 6ALAYHI+zx
    cM+zx dAA+zx c+AS-SALAATU+WAS-SALAAM 6QUDDISA+SIRRAH 6SALLALLAHU+ALAYHI+WAAALIHEE+WA-SALLAM
    6ALAYHAA+zx 6TABAARAKA+WA-TAAALAA 6RAHIMAHUM+ALLAAH 6TEH+b+eg+b+bu+s+e cht+b+eg+n+e ks+e hbu+s+e
    cgv+b+bu+s+e cbu+b+eg+s+e hht+s+e hgv+s+e 6eg+b+bu+b+ht+n+e js+e 6ht+b+bu+b+gf+n+e gda+bg+n+e
    6mc+b+ht+b+eg+s+e beg+b+ht+s+e gda+bg+n+e bbu+b+ht+n+e js+e geg+s+e gbu+n+e js+e
    6zs+b+ht+b+ht+n+e js+e bbu+b+bu+n+e 6lw+b+ht+b+bu+n+e js+e beg+b+gf+n+e bbu+b+gv+n+e js+e
    gbu+n+e js+e 6DAD+b+ht+b+da+bg+n+e cgv+b+bu+n+e ks+e 6vz+b+bu+b+ht+n+e js+e gbu+s+e ggf+n+e
    6sp+b+eg+b+bu+n+e bbu+b+bu+n+e js+e gda+bg+n+e 6nj+b+bu+b+bu+n+e ggf+n+e gda+bg+n+e
    6zg+b+gv+b+bu+n+e js+e 6ww+b+bu+b+ht+n+e gbu+n+e 6rc+b+ht+b+bu+n+e ggf+n+e gda+bg+n+e
    beg+b+eg+s+e jn+e bgv+b+bu+n+e js+e bbu+b+ht+n+e js+e 6bu+b+ht+b+eg+s+e gbu+s+e ggf+n+e
    beg+b+ht+s+e gbu+s+e bgv+b+eg+s+e gbu+s+e 3:beg+b+gv+s+e 6up+b+bu+b+eg+s+e gbu+s+e
    6iz+b+ht+b+bu+s+e gda+bg+n+e beg+b+bu+n+e js+e gda+bg+n+e bbu+b+gf+n+e gda+bg+n+e
    6gf+b+bu+b+bu+n+e js+e 6BEH+b+gv+b+gf+n+e 6TEH+b+eg+b+gf+n+e hda+bg+n+e cgv+b+gf+n+e hda+bg+n+e
    cbu+b+gf+n+e hda+bg+n+e 6eg+b+bu+b+gf+n+e bht+b+da+bg+n+e bbu+b+da+bg+n+e 6mc+b+gv+b+da+bg+n+e
    6zs+b+ht+b+gf+n+e 6lw+b+ht+b+gf+n+e 6DAD+b+ht+b+gf+n+e 6rc+b+eg+b+gf+n+e bbu+b+gf+n+e
    6gf+b+ht+b+gf+n+e beg+b+gf+n+e bbu+b+gf+n+e 6bu+b+bu+b+gf+n+e 6ww+b+bu+b+gf+n+e
    6iz+b+ht+b+gf+n+e 6ww+b+bu+b+ht+s+e 6rc+b+ht+b+bu+s+e 6sp+b+bu+b+gf+n+e 6uj+b+bu+b+gf+n+e
    6iz+b+eg+b+ht+s+e 6bu+b+gv+b+gf+n+e 6rc+b+eg+b+bu+s+e 6uj+b+bu+b+bu+n+e 6rc+b+eg+b+bu+n+e
    6iz+b+eg+b+ht+n+e 6eg+b+ht+b+gf+n+e 6ht+b+eg+b+gf+n+e 6bu+b+eg+b+gf+n+e 6zg+b+bu+b+gf+n+e
    6BEH+b+ht+b+gf+n+e 6uj+b+bu+b+bu+s+e 6sp+b+eg+b+bu+s+e 6zs+b+bu+b+bu+s+e 6mc+b+gv+b+gf+n+e
    6iz+b+eg+b+gf+n+e 8:6SALAAMUHU+ALAYNAA 21:9LA+USED+AS+KORANIC+fb+g+j+e
    6QALA+USED+AS+KORANIC+fb+g+j+e 6ALLAH+j+e 7KBAR+j+e 6MOHAMMAD+j+e 6SALAM+j+e 6RASOUL+j+e
    6ALAYHE+j+e 6WASALLAM+j+e 6SALLA+j+e bLLAHOU+ALAYHE+WASALLAM 6JALLAJALALOUHOU 0RIAL+g
    0jf+dj+BISMILLAH+AR-RAHMAN+AR-RAHEEM 6SUBHAANAHU+WA+TAAALAA 6AZZA+WA+JALL 0vc+SELECTOR-1 c2 c3
    c4 c5 c6 c7 c8 c9 c10 d1 d2 d3 d4 d5 d6 0PRESENTATION+e+qm+r+dp kfu+dp nhd+fb khs kix kcy+aj
    keb+aj ko+z+lp+ae kh+z+lp+BRAKCET ky+pd 7:0ck+dj+o+cc 6h+cc 3l+bq+o+cc 8h+cc 3cp+o+cc 6h+cc
    3CONJOINING+cp 3dj+o+cc+m 6h+cc+m 3bq+o+cc+m 6h+cc+m 3cp+o+cc+m 6h+cc+m 3CONJOINING+cp+m
    3it+TITLO+o+cc ch+cc 0PRESENTATION+e+qm+r+bn+bw+LEADER kEM+in lN+in khl+ft kWAVY+hl+ft ko+bd
    kh+bd ko+ja+ae kh+ja+ae ko+he+jr+ae kh+he+jr+ae ko+x+lp+ae kh+x+lp+ae ko+l+eo+ae kh+l+eo+ae
    ko+eo+ae kh+eo+ae ko+fy+ae kh+fy+ae ko+z+fy+ae kh+z+fy+ae 0SESAME+bw 0z+SESAME+bw
    0PRESENTATION+e+qm+r+o+an+ae kh+an+ae 0nf+pm 0CENTRELINE+pm 0WAVY+pm 0l+WAVY+pm 0nf+hl+ft
    0CENTRELINE+hl+ft 0WAVY+hl+ft 0d+dp 2fu+dp 2hd+fb 2:2ix 2hs 2eb+aj 2cy+aj 2EM+in 2o+bd 2h+bd
    2o+ja+ae 2h+ja+ae 2o+he+jr+ae 2h+he+jr+ae 2cq+g 2ms 2ch 2bx+g 2tm 2aw+g 3i+g 2fl+g 2:2hg+gj
    2xj+g 2PERCENT+g 2ss+AT 5:0jf+ti+j+e 3TATWEEL+b+ti+i 3xi+j+e 3gu+FRAGMENT 3xx+j+e 2:3sg+j+e
    6bf+e 3vl+j+e 6bf+e 3rb+j+e 6bf+e 3SHADDA+j+e abf+e 4UKUN+j+e 9bf+e 3a+gx+j+e 5da+b+yb+i+j+e
    fn+e agx+i+j+e fn+e 5qo+b+gx+i+j+e fn+e 5da+b+gx+m+j+e fn+e 5gf+b+gx+i+j+e fn+e fs+e fbf+e
    5da+j+e 8n+e 5BEH+j+e 9n+e 9s+e 9bf+e 5TEH+MARBUTA+j+e hn+e 9j+e 9n+e 9s+e 9bf+e 5zt+j+e 8n+e
    8s+e 8bf+e 5eg+j+e 8n+e 8s+e 8bf+e 5ht+j+e 8n+e 8s+e 8bf+e 5gv+j+e 8n+e 8s+e 8bf+e 5DAL+j+e 9n+e
    5THAL+j+e an+e 5tw+j+e 8n+e 5vg+j+e 8n+e 5mc+j+e 8n+e 8s+e 8bf+e 5lw+j+e 8n+e 8s+e 8bf+e 5zs+j+e
    8n+e 8s+e 8bf+e 5DAD+j+e 9n+e 9s+e 9bf+e 5vz+j+e 8n+e 8s+e 8bf+e 5ZAH+j+e 9n+e 9s+e 9bf+e
    5sp+j+e 8n+e 8s+e 8bf+e 5nj+j+e 8n+e 8s+e 8bf+e 5zg+j+e 8n+e 8s+e 8bf+e 5ww+j+e 8n+e 8s+e 8bf+e
    5uj+j+e 8n+e 8s+e 8bf+e 5rc+j+e 8n+e 8s+e 8bf+e 5bu+j+e 8n+e 8s+e 8bf+e 5iz+j+e 8n+e 8s+e 8bf+e
    5up+j+e 8n+e 8s+e 8bf+e 5qo+j+e 8n+e 5da+bg+j+e bn+e 5gf+j+e 8n+e 8s+e 8bf+e
    3dj+rc+b+da+b+yb+i+j+e ln+e ggx+i+j+e ln+e jm+j+e ln+e ej+e en+e 3:0du+WIDTH+NO-BREAK+kk
    2:0FULLWIDTH+cy+aj adg+aj acq+g axj+g aPERCENT+g ams akb ao+bd ah+bd ach abx+g adp atm ahd+fb
    agj abr+du dbs en dt dat ey dev dau er dcj ahs aix aaw+g afl+g aai+g aeb+aj ass+AT aes+c+a+A hB
    hC hD hE hF hG hH hI hJ hK hL hM hN hO hP hQ hR hS hT hU hV hW hX hY hZ ao+an+ae ahg+gj b+an+ae
    aaf+eu ahl+ft adf+eu aes+d+a+A hB hC hD hE hF hG hH hI hJ hK hL hM hN hO hP hQ hR hS hT hU hV hW
    hX hY hZ ao+ja+ae ar+ft ah+ja+ae abq ao+z+bd ah+z+bd 0HALFWIDTH+fu+hd+fb ao+fy+ae ah+fy+ae
    afu+dp akt+ad+bw e+WO fd+A hI hU hE hO hYA iU iO hTU bu+PROLONGED+np+aj bt+a+A fI fU fE fO fKA
    gI gU gE gO fSA gI gU gE gO fTA gI gU gE gO fNA gI gU gE gO fHA gI gU gE gO fMA gI gU gE gO fYA
    gU gO fRA gI gU gE gO fWA fN drl+np+aj dSEMI-VOICED+np+aj asv+st da+us fvx fKIYEOK-SIOS fNIEUN
    fvq gr ga gy fRIEUL ftx fvt gu fyl fzq gp fvs fMIEUM fPIEUP fyt gi fSIOS gSANGSIOS fxt gf fys
    frp gs gz gt fHIEUH 4:fA gE fYA hE fEO g 3:fYEO h fO fWA hE fOE 3:fYO fU fWEO h gI fYU 3:fEU fYI
    fI 4:0FULLWIDTH+CENT+g aPOUND+g ald+g acp aBROKEN+fa aYEN+g aWON+g 2:0HALFWIDTH+FORMS+bl+r aq+f
    aap+f ak+f aaa+f ax+an az+ao b:0INTERLINEAR+ANNOTATION+ANCHOR nei nTERMINATOR
    0OBJECT+REPLACEMENT+lj 0REPLACEMENT+lj 3:0LINEAR+B+hv+B008+A e38+E e28+I e61+O e10+U e01+DA
    e45+DE e07+DI e14+DO e51+DU f7+JA e46+JE 2:e36+JO e65+JU e77+KA e44+KE e67+KI e70+KO e81+KU
    f0+MA e13+ME e73+MI e15+MO e23+MU e06+NA e24+NE e30+NI e52+NO f5+NU e03+PA e72+PE e39+PI e11+PO
    e50+PU e16+QA e78+QE e21+QI e32+QO 2:e60+RA e27+RE e53+RI e02+RO e26+RU e31+SA e09+SE e41+SI
    e12+SO e58+SU f9+TA e04+TE e37+TI e05+TO e69+TU e54+WA e75+WE e40+WI f2+WO 2:e17+ZA e74+ZE
    2:e20+ZO f5+A2 e43+A3 e85+AU e71+DWE e90+DWO e48+NWA e29+PU2 e62+PTE e76+RA2 e33+RA3 e68+RO2
    f6+TA2 e87+TWE e91+bn 3:9w+B018 e9 d22 d34 d47 e9 d56 d63 e4 d79 d82 e3 e6 e9 23:9xs+B100+MAN
    f2+WOMAN f4+DEER f5+EQUID gF+MARE gM+STALLION f6F+EWE gM+RAM f7F+SHE-GOAT gM+HE-GOAT f8F+SOW
    gM+BOAR f9F+COW gM+BULL e20+WHEAT f1+BARLEY f2+OLIVE f3+SPICE f5+CYPERUS 9tt+B127+KAPO f8+KANAKO
    9xs+B130+OIL f1+WINE f2 9tt+B133+AREPA f5+MERI 9xs+B140+BRONZE f1+GOLD f2 f5+WOOL f6 e50 f1+jv
    f2 f3 f4 9tt+B156+TURO2 9xs+B157 f8 f9+CLOTH e60 f1 f2+GARMENT f3+ARMOUR f4 f5 f6 f7 f8 f9 e70
    f1 f2 f3+MONTH f4 f6+TREE f7 f8 f9 e80 f1 f2 f3 f4 f5 f9 e90 f1+HELMET d220+FOOTSTOOL f5+BATHTUB
    e30+SPEAR f1+f f2 f3+SWORD f4 f6 e40+WHEELED+CHARIOT f1+CHARIOT f2+CHARIOT+FRAME f3+WHEEL f5 f6
    9tt+B247+DIPTE 9xs+B248 f9 e51 f2 f3 f4+DART f5 f6 f7 f8 f9 cVESSEL+B155 k200 m1 m2 m3 m4 m5 m6
    m7 m8 m9 l10 m1 m2 m3 m4 m5 m6 m7 m8 m9 l21 m2 m6 m7 m8 m9 l50 k305 6:0AEGEAN+vd+ei+ft dbw
    7se+aj 5:7cq+bs bn at aat by aev aau br acj aik aem aih amg ahk ano aef all aez abs+ab bn+ab
    at+ab aat+ab by+ab aev+ab aau+ab br+ab acj+ab abs+ac bn+ac at+ac aat+ac by+ac aev+ac aau+ac
    br+ac acj+ac aik+ac aem+ac aih+ac amg+ac ahk+ac ano+ac aef+ac all+ac aez+ac 4:7WEIGHT+BASE+UNIT
    exl+ry eym+ry erk+ry eFOURTH+ry 7DRY+wu+xl+ry 7LIQUID+wu+xl+ry 7wu+ym+ry ark+ry
    0jg+ACROPHONIC+ATTIC+bs+ek ncc nDRACHMA kay khk kay+ab oc khk+ac kay+ue kik+ue khk+ue kbs+ab+ue
    kay+ab+ue kbs+ac+ue kay+ac+ue nrw kik+rw khk+rw kbs+ab+rw kay+ab+rw kbs+ac+rw kik+ac+rw
    khk+ac+rw kik+MNAS eHERAEUM+bs+PLETHRON euf+bs eHERMIONIAN+bs eEPIDAUREAN+bn euf+bn
    eCYRENAIC+bn+DRACHMAS eEPIDAUREAN+bn+DRACHMAS eTROEZENIAN+ay pik r+ep+e eHERMIONIAN+ik
    eMESSENIAN+ik euf+ik ih eTROEZENIAN+hk r+ep+e eHERMIONIAN+hk euf+hk hbs+ab ht+ab
    eEPIDAUREAN+ay+ab eTROEZENIAN+ay+ab euf+ay+ab eCARYSTIAN+ay+ab eNAXIAN+ay+ab euf+bs+ac hay+ac
    eDELPHIC+ay+MNAS eSTRATIAN+hk+MNAS 3bs+cc+g a+ep+e 4n+ta+g 3t+ig+g 3YEAR+g 3TALENT+g 3DRACHMA+g
    3OBOL+g 3bn+OBOLS+g 3t+OBOLS+g 3at+OBOLS+g 4y+OBOLS+g 3METRETES+g 3KYATHOS+BASE+g 3LITRA+g
    3OUNKIA+g 3XESTES+g 3ARTABE+g 5OURA+g 3GRAMMA+g 3TRYBLION+BASE+g 3du+g 3bs+ek+g 3SINUSOID+g
    3INDICTION+g 0NOMISMA+g 2:0ROMAN+SEXTANS+g 6UNCIA+g 6SEMUNCIA+g 8XTULA+g 6DIMIDIA+SEXTULA+g
    6SILIQUA+g 6DENARIUS+g 6QUINARIUS+g 6SESTERTIUS+g 6DUPONDIUS+g 6AS+g 6CENTURIAL+g 0ASCIA+w
    4:0jg+w+TAU+wj 30:0PHAISTOS+DISC+g+PEDESTRIAN hLUMED+qx gTATTOOED+qx gCAPTIVE hHILD gWOMAN
    gHELMET gGAUNTLET gTIARA gf gBOW gSHIELD gCLUB gMANACLES iTTOCK gSAW gLID gBOOMERANG
    gCARPENTRY+PLANE gDOLIUM gCOMB gSLING gCOLUMN gBEEHIVE gSHIP gjv gHIDE gBULLS+LEG gCAT gRAM
    gEAGLE gDOVE gTUNNY gBEE gPLANE+TREE gVINE gPAPYRUS gROSETTE gLILY gOX+ze gFLUTE gGRATER
    gSTRAINER gd+AXE gWAVY+BAND gck+jp+u 83:0LYCIAN+a+A 9E 9B aH 9G 9D 9I 9W 9Z 9TH 9J 9K 9Q 9L 9M
    9N 9MM 9NN 9U 9P 9KK 9R 9S 9T aT 9AN 9EN 9H 9X 4:0CARIAN+a+A 9P2 9D 9L 9UUU 9R 9LD 9A2 9Q 9B 9M
    9O 9D2 9T 9SH b2 a 9C-18 9U 9NN 9X 9N 9TT2 9P 9SS 9I 9E 9UUUU 9K a2 9ND 9UU 9G a2 9ST b2 9NG 9II
    9C-39 9TT 9UUU2 9RR 9MB b2 b3 b4 9LD2 9E2 9UUU3 10:0hj+EPACT+mz+aj 9br+bs dn ct cat dy cev cau
    dr ccj 9cq+ik cem cih cmg chk cno cef cll cez cbs+ab dn+ab ct+ab cat+ab dy+ab cev+ab cau+ab
    dr+ab ccj+ab 5:0ma+qd+a+A 8BE 8KE 8DE 8E 8VE 8ZE 8HE 8qn 8I 8KA 8EL 9M 9N 9SH 8O 8PE 8sn 8KU 8ER
    9S 8TE 8U 8EKS 8PHE 8KHE 8EF 9RS 8zb 8II 8UU 8ESS 6oc+bs 9ay 9ik 9hk a:6a+YE 8NORTHERN+TSE
    8SOUTHERN+TSE 0GOTHIC+a+AHSA 9BAIRKAN 9GIBA 9DAGS 9AIHVUS 9QAIRTHRA 9IUJA 9HAGL 9THIUTH 9EIS
    9KUSMA 9LAGUS 9MANNA 9NAUTHS 9JER 9URUS 9PAIRTHRA 9ez 9RAIDA 9SAUIL 9TEIWS 9WINJA 9FAIHU 9IGGWS
    9HWAIR 9OTHAL 9cj+ab 6:0ma+PERMIC+a+AN cBUR cGAI cDOI cE cZHOI cDZHOI cZATA cDZITA cI cKOKE cLEI
    cMENOE cNENOE cVOOI cPEEI cREI cSII cTAI cU cCHERY cSHOOI eCHOOI cYRY dERU cO dO cEF cHA cTSIU
    cVER cYER fI dAT cIE cYU dA cIA 0ck+ma+PERMIC+a+AN fDOI fZATA fNENOE fSII 6:0UGARITIC+a+ALPA bqs
    bGAMLA bke blg bHO bWO bza bHOTA bTET bYOD buj blf bqi bMEM bDHAL bnv bZU bSAMKA bsp bPU bSADE
    bQOPA bRASHA bTHANNA bnj bTO bI bU bSSU 2:9vd+wp 0ma+PERSIAN+g+A dI dU dKA eU dGA eU dXA dCA dJA
    eI dTA eU dDA eI eU dlc dPA dBA dFA dNA eU dMA eI eU dYA dVA eI dRA eU dLA dSA dZA djd dqj dHA
    5:dAURAMAZDAA n-2 nHA dXSHAAYATHIYA dDAHYAAUSH m-2 dBAGA eUUMISH bvd+wp bcq+bs fn eik eem eab
    2b:0DESERET+c+a+eh+I fE fA gH fO gO dt+I fE fA gH fO gO cAY cOW cWU cYEE cH cPEE cBEE cTEE cDEE
    cCHEE cJEE cKAY cGAY cEF cVEE cETH cTHEE cES cZEE cESH cZHEE cER dL dM dN eG cOI cEW 8d+a+eh+I
    fE fA gH fO gO dt+I fE fA gH fO gO cAY cOW cWU cYEE cH cPEE cBEE cTEE cDEE cCHEE cJEE cKAY cGAY
    cEF cVEE cETH cTHEE cES cZEE cESH cZHEE cER dL dM dN eG cOI cEW 0SHAVIAN+a+PEEP aTOT aKICK aFEE
    aTHIGH aSO bURE aCHURCH aYEA aHUNG aBIB aDEAD aGAG aVOW aTHEY aZOO awu aJUDGE aWOE aHA-HA aLOLL
    aMIME aIF aEGG aol aADO aON aWOOL aOUT aAH aROAR anv aEAT aAGE aICE aUP aOAK bOZE bIL aAWE bRE
    aOR aAIR aERR aARRAY aEAR aIAN aYEW 0OSMANYA+a+da aBA aTA aJA aXA ake aDEEL aRA aSA bHIIN ant
    aCAYN aGA aFA aQAAF aKAAF aLAAN aMIIN aNUUN aqo aHA aYA aA aE aI aO aU aAA aEE aOO 3:8br+du bbs
    cn bt bat cy bev bau cr bcj 7:2AGE+c+a+A bI asp aAH aBRA aju aEHCHA b bIN aHA bYA aI aKA aEHKA
    aKYA aLA aMA aNA aO bIN aPA aEHPA aSA ajd aTA aEHTA auk aEHTSA avb ant aU aWA ake anu aZA bHA
    5:6d+a+A bI asp aAH aBRA aju aEHCHA b bIN aHA bYA aI aKA aEHKA aKYA aLA aMA aNA aO bIN aPA aEHPA
    aSA ajd aTA aEHTA auk aEHTSA avb ant aU aWA ake anu aZA bHA 5:0ELBASAN+a+A aBE aCE azb aDE aNDE
    aDHE aEI b aFE aGE bJE aHE aI aJE aKE aLE bLE aME aNE bA bJE aO aPE aQE aRE bRE aSE asn aTE aqn
    aU aVE aXE aY aZE bHE aGHE cAMMA aKHE 9:0CAUCASIAN+ALBANIAN+a+ALT lBET lGIM lDAT lEB lZARL lEYN
    lZHIL lTAS lju lYOWD lZHA lIRB ljd lLAN lINYA lXEYN lDYAN lCAR lJHOX lKAR lLYIT lHEYT lQAY lAOR
    lCHOY lzc lCYAY lMAQ lQAR lNOWC lDZYAY lSHAK lJAYN lON lTYAY lFAM lDZAY lCHAT lPEN lGHEYS lRAT
    lSEYK lVEYZ lTIWR lSHOY lIWN lCYAW mAYN lYAYD lPIWR lKIW c:jCITATION+aj 0VITHKUQI+c+a+A dBBE eE
    dCE dzb dDE eHE dEI e dFE dGA 2:dHA eHA dI eJE dJE dKA dLA dwg dME dNE eJE dO dPE dQA dRE 2:dSE
    dsn dTE dqn dU dVE dXE 2:dY dZE 2:9d+a+A dBBE eE dCE dzb dDE eHE dEI e dFE dGA 2:dHA eHA dI eJE
    dJE dKA dLA dwg dME dNE eJE dO dPE dQA dRE 2:dSE dsn dTE dqn dU dVE dXE 2:dY dZE
    44:0LINEAR+A+g+AB001 f2 f3 f4 f5 f6 f7 f8 f9 e10 f1 f3 f6 f7 e20 f1 gF gM f2 gF gM f3 gM f4 f6
    f7 f8 c028B cB029 e30 f1 f4 f7 f8 f9 e40 f1 f4 f5 f6 f7 f8 f9 e50 f1 f3 f4 f5 f6 f7 f8 f9 e60 f1
    f5 f6 f7 f9 e70 f3 f4 f6 f7 f8 f9 e80 f1 f2 f5 f6 f7 c100-102 cB118 e20 c120B cB122 f3 e31A gB
    c131C cB164 e71 e80 f8 e91 c301 e2 e3 e4 e5 e6 e7 e8 e9A fB fC d10 e1 e2 e3A fB fC e4 e5 e6 e7
    e8 e9 d20 e1 e2 e3 e4 e5 e6 e7 e8 e9 d30 e1 e2 e3 e4 e5 e6 e7 e8 e9 d40 e1 e2 e3 e4 e5 e6 e7 e8
    e9 d50 e1 e2 e3 e4 e5 e6 e7 e8 e9 d60 e1 e2 e3 e4 e5 e6 e7 e8 e9 d70 e1 c400-VAS e1-VAS e2-VAS
    e3-VAS e4-VAS e5-VAS e6-VAS e7-VAS e8-VAS e9-VAS d10-VAS e1-VAS e2-VAS e3-VAS e4-VAS e5-VAS
    e6-VAS e7-VAS e8-VAS c501 e2 e3 e4 e5 e6 e8 e9 d10 e1 e2 e3 e5 e6 d20 e1 e3 e4 e5 e6 e7 e8 e9
    d30 e1 e2 e4 e5 e6 e7 e8 e9 d40 e1 e2 e5 e7 e8 e9 d50 e1 e2 e3 e4 e5 e6 e7 e9 d63 e4 e5 e6 e8 e9
    d70 e1 e2 e3 e4 e5 e6 e7 e8 e9 d80 e1 e2 e3 e4 e5 e6 e7 e8 e9 d91 e2 e4 e5 e6 e8 c600 e1 e2 e3
    e4 e6 e8 e9 d10 e1 e2 e3 e4 e5 e6 e7 e8 e9 d20 e1 e2 e3 e4 e6 e7 e8 e9 d34 e7 e8 d40 e2 e3 e4 e5
    e6 e8 e9 d51 e2 e3 e4 e5 e6 e7 e8 e9 d60 e1 e2 e3 e4 a:c701+A e2+B e3+D e4+E e5+F e6+H e7+J e8+K
    e9+L f-2+L2 g3+L3 g4+L4 g6+L6 d10+W e1+X e2+Y e3+gm e4+ABB e5+BB e7+DD d26+EYYY d32+JE b:c800 e1
    e2 e3 e4 e5 e6 e7 19:0dx+a+d+c+AA 5gt+ec+hs 8cc+ec+hs 5d+AE 7c+B 7B+b+av 2:7DZ+fo c+b+bz+av fpa
    8EZH+fo 8+b+gu bav d+p+gu 7aq+E 7fk+aq+ed+E 7FENG+fo 7RAMS+jv 7c+G 7G+b+av 7c+G+b+av 7H+b+u 7c+H
    7HENG+b+av 7jy+J+b+u+p+av 7LS+fo 8Z+fo 8+b+BELT 7c+L+b+BELT 7L+b+bz+av+p+BELT 8EZH b+b+bz+av
    7bh+Y b+b+BELT 7O+b+u 7c+OE 7fk+gm 7Q 7bh+R+b+eh+LEG k+p+bz+av 7R+b+gu bqv 7c+R 7TC+fo+b+pa
    8S+fo c+b+bz+av 8ESH+fo 8+b+bz+av 7V+b+h+av 2:7c+Y 5fp+fb+b+u 5aq+fp+fb+b+u 5BILABIAL+te
    5DENTAL+te 5LATERAL+te 5ALVEOLAR+te 5bz+te+b+bz+av 5d+S+b+pa 46:0CYPRIOT+hv+A bE bI bO bU bJA
    3:cO 2:bKA cE cI cO cU bLA cE cI cO cU bMA cE cI cO cU bNA cE cI cO cU bPA cE cI cO cU bRA cE cI
    cO cU bSA cE cI cO cU bTA cE cI cO cU bWA cE cI cO 2:bXA cE 4:bZA 3:cO 0IMPERIAL+ARAMAIC+a+nd
    jsq jny jqu jHE jqo kk juq jTETH jve jtp jln jMEM jnv jlb jzd jPE jpp jQOPH jyk jlf jTAW 2:hgi+g
    hcq+bs ln kt kik kem kbs+ab oc kik+ac 0PALMYRENE+a+nd csq cny cqu cHE cqo dk cuq cTETH cve ctp
    cln cMEM cn+nv dv clb czd cPE cpp cQOPH cyk clf cTAW add+FLEURON acd+FLEURON bq+bs en dt dat ey
    dik dem 0NABATAEAN+a+n+nd dd d+sq csq cny cqu cn+HE cHE cqo dk cuq cTETH cn+ve cve cn+tp ctp
    cn+ln cln cn+MEM cMEM cn+nv dv clb czd cPE cpp cQOPH cyk cn+lf clf cTAW 9:acq+bs en dt dat
    aCRUCIFORM+cq+at acq+ay dik dem dbs+ab 31:0HATRAN+a+nd 9sq 9ny 9DALETH-RESH 9HE 9qo 9ZAYN 9uq
    9TETH 9ve 9tp 9ln 9MEM 9nv 9lb 9AYN 9PE 9pp 9QOPH 2:9lf 9TAW 6:7cq+bs aay aik aem abs+ab
    0PHOENICIAN+a+ALF dBET dGAML dDELT dHE dWAU dZAI dHET dTET dYOD duj dLAMD dMEM dnv dSEMK dsp dPE
    dSADE dQOF dROSH dlf dTAU bcq+bs eik eem ebs+ab fn et 4:bvd+ei 0LYDIAN+a+A 9B 9G 9D 9E 9V 9I 9Y
    9K 9L 9M 9N 9O 9R 9SS 9T 9U 9F 9Q 9S 9TT 9AN 9EN 9LY 9NN 9C 6:7ec+aj
    41:0MEROITIC+HIEROGLYPHIC+a+A oE oI oO oYA oWA oBA q-2 oPA oMA oNA q-2 pE q-2 oRA q-2 oLA oke
    oHHA oSA q-2 pE oKA oQA oTA q-2 pE q-2 pO oDA mw+VIDJ s-2 9CURSIVE+a+A jE jI jO jYA jWA jBA jPA
    jMA jNA kE jRA jLA jke jHHA jSA jhq+SA jSE jKA jQA jTA kE kO jDA 5:hgq+oo+ly kbs+cc hya+RMT kIMN
    hcq+bs ln kt kat ly kev kau lr kcj kik kem kih kmg khk kno kef 3:kbs+ab ln+ab kt+ab kat+ab ly+ab
    kev+ab kau+ab lr+ab kcj+ab kbs+ac ln+ac kt+ac kat+ac ly+ac kev+ac kau+ac lr+ac kcj+ac kik+ac
    kem+ac kih+ac kmg+ac khk+ac kno+ac kef+ac kll+ac kez+ac kbs+ab+ac ln+ab+ac kt+ab+ac kat+ab+ac
    ly+ab+ac kev+ab+ac kau+ab+ac lr+ab+ac kcj+ab+ac hgq+bs+TWELFTH ln+ly kt+ly kat+ly ly+ly kev+ly
    kau+ly lr+ly kcj+ly kik+ly 0KHAROSHTHI+a+A bbm+g+I gU gby+R 2:gE gO 6:elo+aj bg+l+dh+m dbv ddv
    ba+KA dke dGA dnu 2:dCA dju dJA 2:djz dna dii dng diu dos dTA dlc dDA dnt dNA dPA dlv dBA dow
    dMA dYA dRA dLA dVA djd dqj dSA dZA dHA dKKA dTTTHA gA dVHA 3:bg+fa+i dCAUDA dbw+m 5:ben bbr+bs
    fn et eat bcq+ik eem ebs+ab ic bgq+bs+cc 8:bbc+bw ed+ao eao etf+fa eMANGALAM eLOTUS ehz el+hz
    eLINES 8:0ma+fv+ARABIAN+a+HE gln guq gMEM gQOPH gqo glf gyk gsq gTAW gSAT gtp gnv gKHETH gpp glb
    gFE gda gAYN gDHADHE gny gqu gGHAYN gTETH gZAYN gDHALETH gve gTHAW iETH ecq+bs hhk eNUMERIC+mw
    4e+ARABIAN+a+up grc ght gbu gww gqo gES-2 gtw gBEH gTEH gES-1 guj giz ggv gzs gES-3 gzg gda gsp
    gDAD gGEEM gDAL gnj gvz hg gTHAL ggf gzt gZAH ecq+bs hik hem 21:0MANICHAEAN+a+nd dsq dBHETH dny
    dGHIMEL dqu dHE dqo bg+UD ba+qk dZHAYIN dJAYIN eHAYIN duq dTETH dve dtp dXAPH dKHAPH dln
    dDHAMEDH dTHAMEDH dMEM dnv dlb dzd dAAYIN dPE dFE dpp dQOPH dXOPH dQHOPH dyk dlf dSSHIN dTAW
    bdy+aj+i hm 5:bcq+bs eay eik eem ebs+ab bbc+gg eFLEURON el+bw+yz+bw ebw+yz+bw g fn+cu eft+st
    a:0AVESTAN+a+A bA bO bAO bN bAN bE cE aE bE aO bO aI bI aU bU aKE aXE bYE bVE aGE bGE bHE aCE
    aJE aTE aqn aDE bHE aTTE aPE aFE aBE bHE aNGE cYE cVE bE bYE bNE aME aHME aYYE bE aVE aRE aLE
    aSE aZE asn aZHE aSHYE bSHE aHE 4:8dy+aj 0TINY+bn+cu+cw+bs+bw+bc 0d+bn+cu+cw+bs+bw+bc
    1c+bn+cu+cw+bs+bw+bc 4s+bw+cw+bn+cu+bc 4n+RINGS+cw+bs+dh+bc 4s+dh+cw+bn+RINGS+bc
    0INSCRIPTIONAL+PARTHIAN+a+nd psq pny pqu pHE pqo qk puq pTETH pve ptp pln pMEM pnv plb pzd pPE
    ppp pQOPH pyk plf pTAW 3:ncq+bs rn qt qat qik qem qbs+ab uc gHLAVI+a+nd osq ony oqu oHE
    oWAW-AYIN-RESH oqk ouq oTETH ove otp oln oMEM-QOPH onv olb oPE opp olf oTAW 6:mcq+bs qn pt pat
    pik pem pbs+ab tc 0PSALTER+PAHLAVI+a+nd isq iny iqu iHE iWAW-AYIN-RESH iqk iuq ive itp iln
    iMEM-QOPH inv ilb iPE ipp ilf iTAW 8:ggi+aj gbh+gi+aj gat+cu+b+fn obw d:gcq+bs kn jt jat jik jem
    jbs+ab 51:0ma+TURKIC+a+gl+A cfr+A gE cgl+I cfr+I fE cgl+O gE cfr+OE cgl+AB cfr+AB cgl+AEB
    cfr+AEB cgl+AG cfr+AG cgl+AEG cfr+AEG cgl+AD cfr+AD cgl+AED fEZ cfr+EZ cgl+AY cfr+AY cgl+AEY
    cfr+AEY cgl+AEK cfr+AEK cgl+OEK cfr+OEK cgl+AL cfr+AL cgl+AEL fELT gM fAN gEN cfr+AEN cgl+ENT
    cfr+ENT cgl+ENC cfr+ENC cgl+ENY cfr+ENY fANG cgl+ENG cfr+AENG cgl+EP fOP fIC fEC cfr+EC cgl+AQ
    cfr+AQ cgl+IQ cfr+IQ cgl+OQ cfr+OQ cgl+AR cfr+AR cgl+AER gS gES fol cfr+ol cgl+ESH cfr+ESH
    cgl+AT cfr+AT cgl+AET cfr+AET cgl+OT fBASH 38:3HUNGARIAN+c+a+A iA hEB hAMB hEC iNC iCS iD hp hE
    hCLOSE+E hEE iF iG jY iH hI iI hEJ iK hAK hUNK hEL jY iM iN jY hO iO hyd+OE hRUDIMENTA+OE hOEE
    hEP iMP iR het+ER hES jZ iT iNT iTY iCH hU iU hyd+UE hRUDIMENTA+UE hEV iZ jS iNT-SHAPED+g hUS
    e:dd+a+A iA hEB hAMB hEC iNC iCS iD hp hE hCLOSE+E hEE iF iG jY iH hI iI hEJ iK hAK hUNK hEL jY
    iM iN jY hO iO hyd+OE hRUDIMENTA+OE hOEE hEP iMP iR het+ER hES jZ iT iNT iTY iCH hU iU hyd+UE
    hRUDIMENTA+UE hEV iZ jS iNT-SHAPED+g hUS 8:dcq+bs gay gik ghk gbs+ab kc 0HANIFI+ROHINGYA+a+A iBA
    iPA iTA ina iJA iCA iHA ike iFA iDA ing iRA jRA iZA iSA ijd iKA iGA iLA iMA iNA iWA iKINNA+WA
    iYA iKINNA+YA ijc jz iVA gbm+A jI jU jE jO gaj+SAKIN jNA+KHONNA gg+HARBAHAY iTAHALA kNA kSSI
    9:gbr+du jbs kn jt jat ky jev jau kr jcj 127:0RUMI+br+bs 9n 8t 8at 9y 8ev 8au 9r 8cj 5cq+ik 8em
    8ih 8mg 8hk 8no 8ef 8ll 8ez 8bs+ab 9n+ab 8t+ab 8at+ab 9y+ab 8ev+ab 8au+ab 9r+ab 8cj+ab 5gq+bs+cc
    bek brk 9n+ta 2:0YEZIDI+a+ELIF 9BE 9PE aHE 9qn 9SE 9CIM aHIM bHIM 9HHA 9XA 9DAL 9ZAL 9RA aHA 9ZA
    9JA 9SIN 9lf 9zs 9DAD 9TA 9ZE 9EYN 9XHEYN 9FA 9VA b+ep+e 9ww 9uj 9KHAF 9GAF 9rc 9MIM 9nv 9UM 9qo
    9OW 9EW 9HAY 9YOT 9ET 2:7ck+gx+aj ayb+aj 7HYPHENATION+aj 3:7a+rc+b+bw+i 9YOT+b+af+i
    4f:0ma+SOGDIAN+a+nd e+nd dsq dn+sq ey dHE dn+HE dqo ek duq dve dtp dln dMEM dnv e+nv h+b+r+gu
    dlb dzd dep+zd dPE dpp dn+pp h+b+r+gu dRESH-AYIN-DALETH dlf dTAW dn+TAW i+b+r+gu bcq+bs fn et
    eat fy eik eem eih ebs+ab bgq+bs+cc bdj+AYIN-DALETH 9:0SOGDIAN+a+nd asq any aHE aqo bk auq ave
    atp aln aMEM anv alb azd aPE app aRESH-AYIN alf aTAW aFETH aLESH 8kh+lf 8ck+bw+m cn+cu+m cw+i
    cn+cu+i bmf+i em bav+i em beh+av+m byk+m bu+m 9q+bs bik bem bbs+ab 8bc+bn+r+BARS k+b+cu bao+b+bw
    bbn+kn+b+cu bcc+ao+b+bw 17:0ma+UYGHUR+a+nd csq cGIMEL-HETH cqo dk cn+uq cve ctp cln cMEM cnv clb
    cPE cpp cyk clf cTAW cLESH ack+bw+i gm en+cu+i jm abc+fa dbn+BARS gcu dat+cu 27:0CHORASMIAN+a+nd
    dd+nd dsq dny dqu dHE dqo dCURLED+qo dqk duq dve dtp dln dMEM dnv dlb dzd dPE dyk dlf dTAW
    bcq+bs fn et eat eik eem ebs+ab 15:0ELYMAIC+a+nd asq any aqu aHE aqo bk auq aTETH ave atp aln
    aMEM anv alb azd aPE app aQOPH ayk alf aTAW 8dj+ZAYIN-YODH a:0BRAHMI+g+ci 9bv 9dv 9oa aj 7a+A aA
    9I aI 9U aU 9by+R dR cL dL 9E 9AI 9O 9AU 9KA 9ke 9GA 9nu 9jc 9CA 9ju 9JA 9rr 9jz 9na 9ii 9ng 9iu
    9os 9TA 9lc 9DA 9nt 9NA 9PA 9lv 9BA 9ow 9MA 9YA 9RA 9LA 9VA 9jd 9qj 9SA 9HA 9wg 9ma+TAMIL+LLLA
    iRRA iNNNA 7bm+g+AA cBHATTIPROLU+AA cI dI cU dU cby+R gR fL gL cE cAI cO cAU 7en 7hz 7l+hz
    7bc+bw al+bw aft atf+fa aLOTUS 5:7cq+bs bn at aat by aev aau br acj aik aem aih amg ahk ano aef
    all aez abs+ab ec 7br+du abs bn at aat by aev aau br acj 7g+ma+TAMIL+en 7a+ma+TAMIL+et+E lO
    7bm+g+ma+TAMIL+et+E oO 7a+ma+TAMIL+wg a:7cq+xv 0KAITHI+g+ci 9bv 9dv 7a+A aA 9I aI 9U aU 9E 9AI
    9O 9AU 9KA 9ke 9GA 9nu 9jc 9CA 9ju 9JA 9rr 9jz 9na 9ii 9ng 9DDDHA 9iu 9RHA 9os 9TA 9lc 9DA 9nt
    9NA 9PA 9lv 9BA 9ow 9MA 9YA 9RA 9LA 9VA 9jd 9qj 9SA 9HA 7bm+g+AA cI dI cU dU cE cAI cO cAU 7g+en
    9jj 7dy+g 7ENUMERATION+g 7cq+g 7gi+aj 7l+gi+aj 7hz 7l+hz 7bm+g+by+R b:7cq+g+i
    3:0SORA+SOMPENG+a+SAH fvz fBAH fCAH fDAH fGAH fMAH fNGAH fLAH fNAH fVAH fPAH fYAH fRAH fht fKAH
    fJAH fNYAH fAH fEEH fIH fUH fOH fEH fMAE 8:dbr+du gbs hn gt gat hy gev gau hr gcj 7:0CHAKMA+g+ci
    9bv 9dv 7a+AA 9I 9U 9E 9KAA aHAA 9GAA aHAA 9NGAA 9CAA aHAA 9JAA aHAA 9NYAA 9TTAA bHAA 9DDAA bHAA
    9NNAA 9TAA aHAA 9DAA aHAA 9NAA 9PAA aHAA 9BAA aHAA 9MAA 9YYAA aAA 9RAA 9LAA 9WAA 9SAA 9HAA
    7bm+g+A cI dI cU dU cE cAI cO cAU cOI 7O+aj 7AU+aj 7en 7MAAYYAA 2:7br+du abs bn at aat by aev
    aau br acj 7gi+aj 7hz 7l+hz 7eb+aj 7a+LHAA 7bm+g+AA cEI 7a+VAA 9:0MAHAJANI+a+A bI bU bE bO bKA
    bke bGA bnu bCA bju bJA brr bjz bna bii bng biu bos bTA blc bDA bnt bNA bPA blv bBA bow bMA bRA
    bLA bVA bSA bHA bRRA 9g+jj 9dy+g 9gi+aj 9dj+SHRI a:0SHARADA+g+ci abv adv 8a+A bA aI bI aU bU
    aby+R eR dL eL aE aAI aO aAU aKA ake aGA anu ajc aCA aju aJA arr ajz ana aii ang aiu aos aTA alc
    aDA ant aNA aPA alv aBA aow aMA aYA aRA aLA awg aVA ajd aqj aSA aHA 8bm+g+AA dI eI dU eU dby+R
    hR gL hL dE dAI dO dAU 8g+en ahr aoa bj 8OM 8hz 8l+hz 8dy+g 8ei 8SANDHI+aj 8g+jj 8bm+dx+aj
    8EXTRA+et+bm+aj 8SUTRA+aj 8bm+g+zo+E 8g+ba+ci 8br+du bbs cn bt bat cy bev bau cr bcj 8EKAM 8g+ub
    8HEADSTROKE 8CONTINUATION+g 8gi+MARK-1 g2 2:1INHALA+hq+br+bs fn et eat fy eev eau fr ecj bcq+ik
    eem eih emg ehk eno eef ell eez ebs+ab ic c:0KHOJKI+a+A aA 9I 9U 9E 9AI 9O 9AU 9KA 9ke 9GA aGA
    9nu 9jc 9CA 9ju 9JA aJA 2:9jz 9na 9ii 9ng 9iu 9os 9TA 9lc 9DA aDDA 9nt 9NA 9PA 9lv 9BA aBA 9ow
    9MA 9YA 9RA 9LA 9VA 9SA 9HA 9wg 7bm+g+AA cI dI cU cE cAI cO cAU 7g+bv 9en 9jj 9SHADDA 7hz 7l+hz
    7vd+ei 7gi+aj 7l+gi+aj 7dy+g 7g+SUKUN 42:0MULTANI+a+A aI aU aE aKA ake aGA 2:anu 2:aCA aju aJA
    bJA 2:ajz ana aii ang aDDDA aiu aos aTA alc aDA ant aNA aPA alv aBA 2:aow aMA aYA aRA aLA aVA
    aSA aHA aRRA bHA 8gi+aj 7:0KHUDAWADI+a+A dA cI dI cU dU cE cAI cO cAU cKA cke cGA dGA cnu cjc
    cCA cju cJA dJA crr cjz cna cii cng cDDDA cRRA ciu cos cTA clc cDA cnt cNA cPA clv cBA dBA cow
    cMA cYA cRA cLA cVA cjd cSA cHA ag+bv abm+g+AA fI gI fU gU fE fAI fO fAU ag+jj cen 6:abr+du dbs
    en dt dat ey dev dau er dcj 7:0GRANTHA+g+ck+bv+i bi abv adv 2:8a+A bA aI bI aU bU aby+R dL 3:aEE
    aAI 3:aOO aAU aKA ake aGA anu ajc aCA aju aJA arr ajz ana aii ang aiu aos aTA alc aDA ant aNA
    2:aPA alv aBA aow aMA aYA aRA 2:aLA awg 2:aVA ajd aqj aSA aHA 2:0ck+BINDU+m 0GRANTHA+g+jj ahr
    8bm+g+AA dI eI dU eU dby+R hR 3:dEE dAI 3:dOO dAU 8g+en 3:8OM 7:8AU+lo+aj 6:8g+PLUTA 8a+VEDIC+bv
    gl+bv aby+RR dLL 8bm+g+by+L hL 3:0ck+GRANTHA+br+du ebs fn et eat fy eev 4:ba+A dKA dNA dVI dPA
    8c:0NEWA+a+A 8A 7I 8I 7U 8U 7by+R bR aL bL 7E 7AI 7O 7AU 7KA 7ke 7GA 7nu 7jc 7NGHA 7CA 7ju 7JA
    7rr 7jz 7NYHA 7na 7ii 7ng 7iu 7os 7TA 7lc 7DA 7nt 7NA 8HA 7PA 7lv 7BA 7ow 7MA 8HA 7YA 7RA 8HA
    7LA 8HA 7WA 7jd 7qj 7SA 7HA 5bm+g+AA aI bI aU bU aby+R eR dL eL aE aAI aO aAU 5g+en 7ci 7bv 7dv
    7jj 7hr 7n+bv 5OM 5SIDDHI 5hz 5l+hz 5dp 5GAP+st 5dy+g 5br+du 8bs 9n 8t 8at 9y 8ev 8au 9r 8cj
    5l+dp 5PLACEHOLDER+aj 2:5INSERTION+g 5SANDHI+aj 5a+VEDIC+bv 5g+oa 8j 1f:0TIRHUTA+ANJI 8a+A bA aI
    bI aU bU aby+R eR dL eL aE aAI aO aAU aKA ake aGA anu ajc aCA aju aJA arr ajz ana aii ang aiu
    aos aTA alc aDA ant aNA aPA alv aBA aow aMA aYA aRA aLA aVA ajd aqj aSA aHA 8bm+g+AA dI eI dU eU
    dby+R hR gL hL dE det+E dAI dO det+O dAU 8g+ci abv adv aen ajj ahr 8GVANG 8dy+g 8OM 9:8br+du bbs
    cn bt bat cy bev bau cr bcj a7:0ub+a+A 6A 5I 6I 5U 6U 5by+R 9R 8L 9L 5E 5AI 5O 5AU 5KA 5ke 5GA
    5nu 5jc 5CA 5ju 5JA 5rr 5jz 5na 5ii 5ng 5iu 5os 5TA 5lc 5DA 5nt 5NA 5PA 5lv 5BA 5ow 5MA 5YA 5RA
    5LA 5VA 5jd 5qj 5SA 5HA 3bm+g+AA 8I 9I 8U 9U 8by+R cR 3:8E 8AI 8O 8AU 3g+ci 5bv 5dv 5en 5jj 5ub
    3hz 3l+hz 3ei+bw 6fa 3REPETITION+MARK-1 j2 j3 3ui+OF+TEXT+aj 3gi+aj+b+TRIDENT+p+yw+ORNAMENTS
    ley+mt bRAYS+p+ey+mt ll+mt ldr+mt 9l+dh d+b+RAYS 9b+l+mt bdr+mt bjq+mt bSEPTUPLE+mt bkn+p+RAYS
    gbn+ENCLOSURES gat+ENCLOSURES 3a+THREE-CIRCLE+ep+I 6WO-CIRCLE+ep+I kI 5ep+U 3bm+g+ep+U cU
    23:0MODI+a+A 8A 7I 8I 7U 8U 7by+R bR aL bL 7E 7AI 7O 7AU 7KA 7ke 7GA 7nu 7jc 7CA 7ju 7JA 7rr 7jz
    7na 7ii 7ng 7iu 7os 7TA 7lc 7DA 7nt 7NA 7PA 7lv 7BA 7ow 7MA 7YA 7RA 7LA 7VA 7jd 7qj 7SA 7HA 7wg
    5bm+g+AA aI bI aU bU aby+R eR dL eL aE aAI aO aAU 5g+bv 7dv 7en 7ARDHACANDRA 5hz 5l+hz 5dy+g
    5g+HUVA c:5br+du 8bs 9n 8t 8at 9y 8ev 8au 9r 8cj 7:2NGOLIAN+vj+b+bo abp+vj al+vj+b+bo
    adr+vj+b+bo avj+b+l+bo abp+vj+b+bo il+bo ba+vj f+b+l+bo aSWIRL+vj i+b+bo ll+bo
    abh+SWIRL+vj+b+l+bo 14:0TAKRI+a+A 9A 8I 9I 8U 9U 8E 8AI 8O 8AU 8KA 8ke 8GA 8nu 8jc 8CA 8ju 8JA
    8rr 8jz 8na 8ii 8ng 8iu 8os 8TA 8lc 8DA 8nt 8NA 8PA 8lv 8BA 8ow 8MA 8YA 8RA 8LA 8VA 8jd 8SA 8HA
    8RRA 6g+bv 8dv 6bm+g+AA bI cI bU cU bE bAI bO bAU 6g+en 8jj 6a+hq+ke 6dy+g 7:6br+du 9bs an 9t
    9at ay 9ev 9au ar 9cj 37:0AHOM+a+KA 7ke 7jc 7NA 7TA 7ep+TA 7PA 7lv 7BA 7MA 7JA 7ju 7lc 7RA 7LA
    7SA 7jz 7HA 7A 7DA 7nt 7GA 7ep+GA 7nu 7ow 7rr 7ep+BA 3:5eq+g+bf+LA dRA dLIGATING+RA 5bm+g+A bA
    aI bI aU bU aE aAW aO aAI bM 5g+KILLER 5:5br+du 8bs 9n 8t 8at 9y 8ev 8au 9r 8cj 5cq+ik 8em
    5g+d+gi 7gi 7RULAI 5w+VI 5a+CA 7na 7ii 7ng 7iu 7os 7wg ba:0DOGRA+a+A 9A 8I 9I 8U 9U 8E 8AI 8O
    8AU 8KA 8ke 8GA 8nu 8jc 8CA 8ju 8JA 8rr 8jz 8na 8ii 8ng 8iu 8os 8TA 8lc 8DA 8nt 8NA 8PA 8lv 8BA
    8ow 8MA 8YA 8RA 8LA 8VA 8jd 8qj 8SA 8HA 8RRA 6bm+g+AA bI cI bU cU bby+R fR bE bAI bO bAU 6g+bv
    8dv 8en 8jj 6dy+g 65:0WARANG+CITI+c+a+NGAA gA gWI gYU hA hO gII gUU gE gO gANG gGA gKO gENY gYUJ
    gUC gENN gODD gTTE gNUNG gDA gAT hM gBU gPU gHIYO hOLO iRR hAR gSSUU hII gVIYO cd+a+NGAA gA gWI
    gYU hA hO gII gUU gE gO gANG gGA gKO gENY gYUJ gUC gENN gODD gTTE gNUNG gDA gAT hM gBU gPU gHIYO
    hOLO iRR hAR gSSUU hII gVIYO cbr+du fbs gn ft fat gy fev fau gr fcj ccq+ik fem fih fmg fhk fno
    fef fll fez d:cOM 0DIVES+AKURU+a+A fA eI fI eU fU eE 3:eO 3:eKA eke eGA enu ejc eCA eju eJA
    2:ejz ena 2:fg eiu eos eTA elc eDA ent eNA ePA elv eBA eow eMA eYA fYA eRA eLA eVA ejd eqj eSA
    eHA ewg eZA cbm+g+AA hI iI hU iU hE 2:hAI hO 3:cg+bv eci eHALANTA cen cPREFIXED+NASAL+g cbf+YA
    cs+RA cbf+RA cg+jj cl+hz cGAP+st cui+OF+TEXT+aj a:cbr+du fbs gn ft fat gy fev fau gr fcj
    47:0NANDINAGARI+a+A fA eI fI eU fU eby+R iR 3:eE eAI eO eAU eKA eke eGA enu ejc eCA eju eJA err
    ejz ena eii eng eiu eos eTA elc eDA ent eNA ePA elv eBA eow eMA eYA eRA eLA eVA ejd eqj eSA eHA
    ewg eRRA cbm+g+AA hI iI hU iU hby+R lR 3:hE hAI hO hAU cg+bv edv een ehr eub cHEADSTROKE
    cbm+g+zo+E 1c:0ZANABAZAR+an+a+A dbm+g+I iUE j iE iOE j iAI jU iaq+I glo+aj da+KA fke fGA fnu fjc
    fCA fju fJA fjz fna fii fng fiu fos fTA flc fDA fnt fNA fPA flv fBA fow fMA fuk fvb fDZA hHA
    fZHA gA f-A fYA fRA fLA fVA fjd fqj fSA fHA fKSSA dn+eq+aj dg+en fci h+b+bo fli+b+bo fbv fdv
    dCLUSTER-INITIAL+a+RA lFINAL+a+YA tRA tLA tVA ds+qx+aj dCLOSING+qx+aj daj+ug ha gl+ua geh+ug
    ds+DOUBLE-LINED+qx+aj dCLOSING+DOUBLE-LINED+qx+aj dSUBJOINER 9:0SOYOMBO+a+A 8bm+g+I dUE e dE dO
    eE dAI eU dby+R gL blo+aj 8a+KA ake aGA anu ajc aCA aju aJA arr ajz ana aii ang aiu aos aTA alc
    aDA ant aNA aPA alv aBA aow aMA auk avb aDZA aZHA bA a-A aYA aRA aLA aVA ajd aqj aSA aHA aKSSA
    8g+oa bj 8CLUSTER-INITIAL+a+RA qLA qjd qSA 8n+eq+g+G fK fNG fD fN fB fM fR fL fSH g f-A 8g+bv
    adv 8su+aj 8SUBJOINER 8aj+ug ca bl+ua bPLUTA 8qx+aj+b+mn+p+SUN+p+dr+FLAME rFLAME o
    8TERMINAL+MARK-1 m2 e:0CANADIAN+SYLLABICS+NATTILIK+HI uI tO uO tA uA sSHRI wI vO wO vA wA jSPE
    lI lO lA 0PAU+CIN+HAU+a+PA eKA eLA eMA eDA eZA eVA ejc eHA eGA eke eSA eBA eCA eTA elc eNA elv
    eRA eFA eju eA eE eI eO eU fA eIA en+P gK gT gM gN gL gW gNG gY cnm+el+eh h cSANDHI+fp+fb
    cnm+el+eh+n in cSANDHI+fp+fb+n jel+eh l l+eh+n mn cMID-LEVEL+el cfp+fb+ha cMID-LEVEL+el+eh+n pn
    cLOW-FALLING+el+eh q cfp+fb cLOW-FALLING+el+eh+n rn cfp+fb+n 108:0BHAIKSUKI+a+A dA cI dI cU dU
    cby+R gR fL 2:cE cAI cO cAU cKA cke cGA cnu cjc cCA cju cJA crr cjz cna cii cng ciu cos cTA clc
    cDA cnt cNA cPA clv cBA cow cMA cYA cRA cLA cVA cjd cqj cSA cHA abm+g+AA fI gI fU gU fby+R jR iL
    2:fE fAI fO fAU ag+ci cbv cdv cen chr ahz al+hz avd+ei aGAP+FILLER-1 l2 b:abr+du dbs en dt dat
    ey dev dau er dcj acq+bs en dt dat ey dev dau er dcj dik dem dih dmg dhk dno def dll dez
    aHUNDREDS+UNIT+aj 4:0MARCHEN+qx+aj 8aj+ua 9+KA ake aGA ajc aCA aju aJA ajz aTA alc aDA aNA aPA
    alv aBA aMA auk avb aDZA aWA aZHA bA a-A aYA aRA aLA ajd aSA aHA aA 3:8rx+a+KA dke dGA djc dCA
    dju dJA djz dTA dlc dDA dNA dPA dlv dBA dMA duk dvb dDZA dWA dZHA eA 2:dYA dRA dLA djd dSA dHA
    dA 8bm+g+AA dI dU dE dO 8g+bv aci 4a:2SARAM+GONDI+a+A hA gI hI gU hU gE 2:gAI gO 2:gAU gKA gke
    gGA gnu gjc gCA gju gJA grr gjz gna gii gng giu gos gTA glc gDA gnt gNA gPA glv gBA gow gMA gYA
    gRA gLA gVA gjd gqj gSA gHA gwg gKSSA gJNYA gTRA ebm+g+AA jI kI jU kU jby+R 4:jE 2:jAI jO 2:jAU
    eg+bv gdv gjj gli gHALANTA een eREPHA fA-KARA 9:ebr+du hbs in ht hat iy hev hau ir hcj
    7:0GUNJALA+GONDI+a+A hA gI hI gU hU 2:gEE gAI 2:gOO gAU gYA gVA gBA gow gMA gKA gke gTA glc gLA
    gGA gnu gDA gnt gNA gCA gju gna gii gwg gJA grr gng giu gjc gPA glv gHA gRA gSA ebm+g+AA jI kI
    jU kU 2:jEE jAI 2:jOO jAU eg+bv gdv een eOM 8:ebr+du hbs in ht hat iy hev hau ir hcj
    137:0MAKASAR+a+KA aGA ajc aPA aBA aMA aTA aDA aNA aCA aJA ajz aYA aRA aLA aVA aSA aA 8ANGKA
    8bm+g+I dU dE dO 8PASSIMBANG 8ui+OF+gi b8:0LISU+a+YHA
    10:0TAMIL+gq+bs+THREE-HUNDRED-AND-TWENTIETH czl cEIGHTIETH cSIXTY-FOURTH cFORTIETH czu
    9t+EIGHTIETHS bSIXTY-FOURTHS 9bs+TWENTIETH cSIXTEENTH-1 m2 cTENTH chb 9t+TWENTIETHS byq
    9bs+FIFTH cek cHALF-1 h2 9t+ig 9DOWNSCALING+FACTOR+KIIZH 7+NEL 8CEVITU 8AAZHAAKKU 8UZHAKKU
    8MUUVUZHAKKU 8KURUNI 8PATHAKKU 8MUKKURUNI 8KAACU 8PANAM 9ON 8VARAAKAN 8PAARAM 8KUZHI 8VELI
    6WET+CULTIVATION+g 6DRY+CULTIVATION+g 6LAND+g 6SALT+PAN+g 6TRADITIONAL+CREDIT+g icq+g 6CURRENT+g
    6p+ODD+g 6SPENT+g 6TOTAL+g 6IN+POSSESSION+g 6STARTING+kp+g 6g+MUTHALIYA 8VAKAIYARAA
    e:6bc+ui+OF+TEXT 0CUNEIFORM+g+A d+as+A hBAD hsa+ir hHA hwr hLAGAR+hc hMUSH hSAG d2 dB e+as+ASH2
    iDUN3+hc iGAL isa+ir iHA iwr+hc iIMIN ish iSHESH iU+bx+U+bx+U fhc e2 f+as+BALAG jsa+ir jME+bx+EN
    jSHA3 jud dD dK e+as+ERIN2 iSHITA+bx+tj dL e+as+AL iDIM2 itj iHA iKAD3 jI isn iUSH eAN cnd cAMAR
    g+as+sn dN e+cw+AN ft+as fbx+NAGA+pl+AN+bx+NAGA nea eSHE dPIN dRAD g+as+KUR eKAB dSAL2 col
    e+ZIDA+ir fKABA+ir fcw+ol+TUG2+cw+TUG2+TUG2+cw+TUG2+PAP lcw+ol q+dq+ol+cw+ol+cw+ol cASH2 fGAB
    cBA eD eG3 eHAR2 eL f+cw+BAL fAG cfa cBARA2 dI e+as+A iwe jr+hc dU e+cw+BU+AB lUN fdq+BU eLUG
    h+cw+BULUG eR f2 cDA eG f+KISIM5+as+A+bx+MASH rMAR qBALAG rI qGA s+bx+MASH rI sR2 rUD qHA qIR
    s+bx+LU qKAK qLA rU s+bx+MASH2 sM qNE qPAP+bx+PAP qSI qud qU2+bx+GIR2 rSH eM eR fA3 g4 dI eB eM
    f+as+sn f2 eN f+oq+U+hc+on con cDU e+cw+DU fhc fru eB f+as+ESH2 f2 eG fUD eH eN f3 g+hc j+hc f4
    eR2 cE d+as+PAP ecw+E+nv+cw+nv d2 e+as+A+bx+HA+bx+DA iwe iMI iSAL isn iU dDIN dGIR dL dN e+as+sa
    k+ir iME fdq+EN fpl+EN fea dREN eIN2 dSH2 dZEN g+as+A l+bx+LAL s+as+LAL lN kBAD kDUN3+hc r+hc
    kHA m+hc kwr+hc koq m+ea kKU3 kLA mL+as+LAL lI lU kU2 lD cGA e+hc e2 f+as+A+bx+DA+bx+HA oHA owr
    kB2+ir+bx+TAB kN jol jASH2+bx+GAL jBAD jfa+bx+RA jBUR m+bx+RA jDA kI lM+as+sn kUB jEL l+bx+LA kN
    l+as+sa+ir jsa+ir jwe jGI l4 m+bx+A lR2+bx+SU jHA+bx+LU+bx+ESH2 lL m+bx+LA kI+bx+LI kUB2 jwr+hc
    jISH+bx+HU+bx+ol jKAK joq jKID m+bx+LAL kU3+bx+AN jLA jME+bx+EN kI jnv l+cw+nv jPA jSAL lR jsn
    l+bx+TUR jSHID kUM jud jU kD l+bx+DU gcw+GA2 eBA g+dq+GABA eD f+cw+GAD+we+cw+we eL
    f+GAD+cw+GAD+we+cw+we fAM eM eN csa e+ir fcw+sa fdq+sa cwe cGAR3 eSHAN dESHTIN j+as+KUR dI
    e+as+E iU fdq+GI e4 f+cw+GI4 gdq+GI4 eDIM eR2 g+hc f3 g+as+A+bx+wr ksa+ir kwr kLU+bx+wr kPA eSAL
    ctj e+dq+tj fas+BAD iud fir cGU e+dq+GU e2 f+as+KAK m+as+wr+hc jnv jSAL+bx+TUG2 ghc eD
    f+as+A+bx+KUR jKUR gcw+GUD+LUGAL eL eM f+as+sn eR f7 fUN gSH cHA e+ir fhc eL dI e+as+ol iASH2
    iBAD ion iGAD iKIN inv isn iU dU eB2 g+as+AN kHAL koq kLISH kUD eL2 cI d+A dB dDIM g+cw+IDIM+BUR
    pea dG cwr e+DIB fRI fcw+wr+SHIR+cw+SHIR+UD+cw+UD fhc cIL e+as+sa+ir e2 dM e+as+ud fdq+IM fpl+IM
    fea eIN dN dR dSH cKA e+as+A jD k+bx+KU3 jSH2 iBAD kLAG ifa iBI iERIN2 jSH2 iGA kL isa+ir iwe
    k+bx+SHA3+bx+A iGI kR2 itj+bx+SAR ldq+tj iGU kR7 iwr iIM iKAK jI kD iLI jU iME k+bx+DU oGI oTE
    jI k+bx+NUNUZ iNE inv iPI iRU iSA kR ijd isn iSHID kU jIG jUHUR iTAR iU j2 jD jMUM+as+PA jSH iZI
    e2 f+dq+KA2 eB eD2 f3 f4 f5 g+cw+KAD5 eK f+as+wr+hc eL f+as+BAD gdq+KAL eM2 f4 coq
    e+sh+as+U+cw+sh+as+U fcw+oq+sh+as+U+cw+sh+as+U cKESH2 dI e+as+BAD iU jD eD eN eSAL fH fIM5
    i+cw+KISIM5 dU e+cw+HI+as+ASH2+KU+cw+HI+as+ASH2 e3 e4 f+ha+e e7 eL f+hc eN eR f+pl+KUR eSHU2
    dWU318 cLA csh e+as+A j+bx+DA+bx+HA nwe nLAL jL jN iol+ZIDA+ir iBAD jI iDAR iEN iGA iwe iGUD
    l+bx+GUD iHA kL jI+as+nv iwr+hc iIM k+bx+HA oLU iKI kN jU3 kL l+bx+HI+bx+A ish iLISH jU kL iME
    k+bx+EN jUSH iNE isn+bx+SUM iSHITA+bx+tj+bx+ERIN2 uir kU2 m+bx+SHU2 jUM iTAG iud
    iTE+bx+A+bx+SU+bx+NA iU j+bx+A nU+bx+U j2+bx+ol jD jSH fea cLAGAR h+as+sn n+bx+SUM ihc
    k+cw+LAGAR+hc+sn eHSHU eL f+as+LAL crc e+as+KUR l+bx+RU cLI eL eMMU2 eSH dU e+as+BAD e2 f+as+AL
    jBAD jESH2 n+ir jsa+ir jHI+as+BAD jIM jKAD2 m3 n+bx+ol kI jLA+bx+ol jsh jME+bx+EN jNE kU
    jSI+bx+ol lK2+bx+BU jTUG2 gir gdq+LU2 gpl+LU2 gea gru e3 eGAL h+cw+LUGAL ipl+LUGAL iru eH eL eM
    f+cw+LUM m+we+cw+we cMA e+as+ud fhc e2 eH eR eSH g2 dE eS dI eN dU e+cw+MU eG f+hc eNSUB eRGU2
    eSH g+as+A kKUR kZA hcw+MUSH o+as+A+bx+NA hdq+MUSH g3 h+as+A m+bx+DI lDI ihc cNA e2 eGA g+ba
    has+SHU+ir hpl+NAGA gR eM+NUTILLU f f2 dE e+as+A iUD fru dI e+as+E e2 eM f+as+sa+ir jwe+bx+sa+ir
    eNDA2 i+as+AN mol o+bx+ol mGUD mME+bx+sa+ir mNE mnv msn o+bx+A+AN sol u+bx+ol mU2+bx+ol nSH eSAG
    dU e11 cnv e+LAGAR+as+we oMASH oSAL r+cw+nv+LAGAR+as+SAL oUSH fir fcw+nv fdq+nv k+LAGAR+cw+LAGAR
    cNUNUZ h+AB2+as+ASHGAB pBI pDUG pGUD pwr+hc pKAD3 pLA pNE pSILA3 pU2 iKISIM5+as+BI u+U cPA eD eN
    eP dESH2 dI e+as+A jB iBI jU iE iI jB iU j2 fdq+PI eRIG h+as+KAL lUD lZA ipl+PIRIG cRA eB dI dU
    cSA eG+NUTILLU f f+as+A jDU lB jHA jKAK kUR jLUM jMI jnv jSAL kHID jTAB jU2 kB kM kR kSH gcw+SAG
    ghc eL f+sh+as+ASH2 eNGA2 eR cjd cSHA3 g+as+A kBAD ktj kNE kSHU2 kTUR kU l+bx+A f6 fB6 cvw csn
    e+HU fcw+sn+GAD+cw+GAD+we+cw+we lTAB+cw+TAB+we+cw+we cSHEG9 fN fSH h2 hLAM eID g+as+A kIM fM
    g+as+A kBAL lULUG kDIN kwe lr m+hc kKUSHU2 kLUL kMUG kSAL fNIG fR g+ir hcw+SHIR+BUR+cw+BUR fTA
    eU f+cw+ba+SHU f2 fBUR dI e+hc eG f4 g+cw+SIG4+SHU2 eK2 eLA3 dU e+cw+SU eD f2 eHUR eM fASH eR f9
    cTA e+ch fas+HI iMI fhc eB f+cw+TAB+NI+cw+NI+on+cw+on gea eG f+as+BI jGUD jsn jSHU jTUG2 jUD cud
    cTAR dE e+hc dI e+ir eL eR f+as+ud gcw+TIR m+GAD+cw+GAD+we+cw+we dU eG2 eK eM eR
    f+cw+TUR+ZA+cw+ZA cU d+GUD eU+U ecw+U+PA+cw+PA+we+cw+we jSUR+cw+SUR jU+aq+cw+U+aq d2 dB dD
    e+KUSHU2 fas+BAD iMI iU+bx+U+bx+U t+hc fhc fru h+as+BAD eUG dM e+as+sh iME+bx+DA iSHA3 iU eBIN
    eUM g+as+oq kPA dN e+hc dR e+dq+UR fru e2 f+as+A+bx+HA oNA kL jHA jnv jU2 l+bx+ol pBI e4 eI f3
    eU f+as+A kSHGAB jfa jDUN jGA lL jsa+ir jwe jGU jHA jwr jIM kSH jKI jLUM jMIN jPA jsn jSIG4 jTU
    jU+bx+GUD kD kRUDA fDA h+as+U dSH f+as+A jKU lR jud fX f2 fUMX dTUKI dZ3 f+as+oq eU cZA e+ir
    fea+as+KUR eG eMX dE2 dI e+cw+ZI e3 eB f+KABA+ir eG eZ2 dU e5 f+as+A eBUR eM cKAP+ELAMITE
    cAB+as+nv e2+as+A dMAR+as+KUG cDAG+KISIM5+as+U2+bx+MASH f3 con+bx+SHU cDUB+as+sn cEZEN+as+GUD
    ksn cGA2+as+AN+bx+KAK+bx+A kSH2 dE22 dIG cHUSH cKA+as+ANSHE jSH3 itj iGUD iHI+as+ASH2 iLUM iPA
    iSHUL iTU iUR2 csh+as+GI cLU2+ru+as+BAD gas+ESH2+bx+LAL jSHU cMESH dUSH3+as+ZA cNA4 dIN f9
    fDA2+as+BAL mGI dU11+bp+ez+cn cPESH2+ch dIR2 cSAG+as+wr+hc cTI2 cUM+as+ME d+U
    67:aNUMERIC+g+bn+ol kt+ol kat+ol ly+ol kev+ol kau+ol lr+ol kcj+ol kt+on kat+on ly+on kev+on
    kau+on lr+on kcj+on kat+U ly+U kev+U kau+U lr+U kcj+U kbs+xp ln+xp kt+xp kat+xp ly+xp kev+xp
    kau+xp lr+xp kcj+xp kbs+GESHU ln+GESHU kt+GESHU kat+GESHU ly+GESHU kbn+vw kt+vw o+ha+e kat+vw
    ly+vw kev+vw kau+vw lr+vw kcj+vw kbs+SHARU ln+SHARU kt+SHARU r+ha+e kat+SHARU ly+SHARU
    kvw+as+GAL+bx+on xMIN kbs+BURU ln+BURU kt+BURU q+ha+e kat+BURU ly+BURU kt+ha+e+ESH16 u21
    kat+ha+e+LIMMU x4 x+A yB kev+ha+e+ASH9 kau+ha+e+IMIN3 w+A xB lr+ha+e+USSU w3 kcj+ha+e+ILIMMU y3
    y4 y+A kbn+ol+ir kt+ol+ir kat+ol+ir ly+ol+ir kev+ol+ir kbs+BAN2 ln+BAN2 kt+BAN2 kat+BAN2 r+ha+e
    ly+BAN2 r+ha+e kNIGIDAMIN qESH kbs+ESHE3 ln+ESHE3 ls+rk+on ln+ta+on kay+SIXTHS+on kbs+rk+ha+e+A
    ln+ta+ha+e+A ls+hb+ol nek+ol kma+ASSYRIAN+bs+SIXTH zek kbs+ek+GUR ncc+GUR kELAMITE+bs+rk tn+ta
    smg shk kat+U+ha+e ly+U+ha+e kev+U+ha+e kau+U+ha+e lr+U+ha+e kcj+U+ha+e
    2:abc+g+ma+ASSYRIAN+vd+wp fr+hs fcm+hs iTRICOLON iQUADCOLON c:ag+AB+as+nv+ir iSHU2 dD+as+ESH2
    cBAD+as+on+ir eHAR2+as+AB2 mNI mZA dU+cw+BU+as+NA2 cDA+as+ud eG+as+KUR dIM+as+wr jU+U+U f2+as+UD
    dUG+as+ANSHE jol l+AT+o jDIN kUN jERIN2 jGA kI lR2+hc jtj jHA kI jwr+hc joq jKUR lSHU2 p+bx+oq
    jLAK-020 jrc l+as+KUR jLUH+bx+tj jMASH kES kI jNI jPI jsn jSI+hc cE2+as+KUR iPAP dRIN2+X
    dSH2+dq+ESH2 dZEN+ru+as+ol nHI nwr+hc nLA pL nME pS nSU has+SU cGA2+as+BAHAR2 jDIM+hc
    kUG+as+wr+hc qoq jEREN jGA jwe+bx+DI pNE jHA+bx+A jKUSHU2+bx+oq jrc l+as+KUR jLUH jMUSH jNE
    l+bx+E2 pGI jSHIM jZIZ2 eBA+bp+ez+cn dESHTIN+as+U ctj+as+tj+dq+tj cGU2+as+wr+hc eD+bx+tj+as+ud
    cHA+ir+hc dI+as+ol+cw+HI+as+ol cKA+as+BU iKA iU+U+U jR csh+as+ZU+cw+ZU cLAK-003 h21 i5 h30 h50
    i1 h62 h79+cw+LAK-079+hc h80 i1+cw+LAK-081 h92 g130 h42 g210 i9 h20 i5 i8 h38 h65 i6 g343 i7 i8
    h83 i4 h90 g441 i9 j+as+GU nwr nPAP+bx+LU3 uPAP+bx+LU3 nU2+bx+BA h50 i7 h70 h83 h90 i2 i3 i5
    g550 g608 h17 j+as+ol nBAD nDUN3+hc+hc nKU3 nLA nTAR oE nU2 oD oRUDA h36 h48 j+as+DUB nGA nwr
    p+hc nNI nPAP+bx+PAP+bx+LU3 nSHESH+bx+KI nUD oRUDA g724 h49 dU2+hc+as+ol gas+on jHAL jPAP
    m+bx+PAP+bx+LU3 jud cMI+bx+ZA7 dUSH+cw+MUSH+as+GA sKAK cNINDA2+as+DIM+hc mtj mGUL mHI mKESH2
    mLAK-050 mMASH mPAP+bx+PAP mU n+bx+U nRUDA cSAG+hc+as+HA gas+EN jsn+AT+o jud dHA6+ir csn+cw+sn
    fbx+HUB2 iNAM2 iSAR cSHU2+bx+DUG+as+NI kE2+as+AN dI+as+ud cud+bx+SAG cTUM+as+sa+ir jt+on cUR2+ba
    gas+UD eU+as+DARA3 jLAK-668 kU3 cZA7 dU+cw+ZU+bx+SAR e5+as+t+on+ir a4d:1YPRO-MINOAN+g+CM001 j2
    j4 j5 j6 j7 j8 j9 i10 j1 j2 kB j3 j5 j7 j9 i21 j3 j4 j5 j6 j7 j8 j9 i30 j3 j4 j5 j6 j7 j8 j9 i40
    j1 j4 j6 j7 j9 i50 j1 j2 j3 j4 j5 j6 j8 j9 i60 j1 j2 j3 j4 j6 j7 j8 j9 i70 j1 j2 j3 j4 j5 kB j6
    j8 j9 i80 j1 j2 j3 j4 j5 j6 j7 j8 j9 i90 j1 j2 j4 j5 j6 j7 j8 j9 h100 j1 j2 j3 j4 j5 j7 j8 j9
    i10 j2 j4 h301 j2 e:0EGYPTIAN+HIEROGLYPH+A001 n2 n3 n4 n5 oA n6 oA oB n7 n8 n9 m10 n1 n2 n3 n4
    oA n5 n6 n7 oA n8 n9 m20 n1 n2 n3 n4 n5 n6 n7 n8 n9 m30 n1 n2 oA n3 n4 n5 n6 n7 n8 n9 m40 oA n1
    n2 oA n3 oA n4 n5 oA n6 n7 n8 n9 m50 n1 n2 n3 n4 n5 n6 n7 n8 n9 m60 n1 n2 n3 n4 n5 n6 n7 n8 n9
    m70 kB001 n2 n3 n4 n5 oA n6 n7 n8 n9 kC001 n2 oA oB oC n3 n4 n5 n6 n7 n8 n9 m10 oA n1 n2 n3 n4
    n5 n6 n7 n8 n9 m20 n1 n2 n3 n4 kD001 n2 n3 n4 n5 n6 n7 n8 oA n9 m10 n1 n2 n3 n4 n5 n6 n7 n8 n9
    m20 n1 n2 n3 n4 n5 n6 n7 oA n8 n9 m30 n1 oA n2 n3 n4 oA n5 n6 n7 n8 n9 m40 n1 n2 n3 n4 n5 n6 oA
    n7 n8 oA n9 m50 oA oB oC oD oE oF oG oH oI n1 n2 oA n3 n4 oA n5 n6 n7 n8 n9 m60 n1 n2 n3 n4 n5
    n6 n7 oA oB oC oD oE oF oG oH kE001 n2 n3 n4 n5 n6 n7 n8 oA n9 oA m10 n1 n2 n3 n4 n5 n6 oA n7 oA
    n8 n9 m20 oA n1 n2 n3 n4 n5 n6 n7 n8 oA n9 m30 n1 n2 n3 n4 oA n6 n7 n8 kF001 oA n2 n3 n4 n5 n6
    n7 n8 n9 m10 n1 n2 n3 oA n4 n5 n6 n7 n8 n9 m20 n1 oA n2 n3 n4 n5 n6 n7 n8 n9 m30 n1 oA n2 n3 n4
    n5 n6 n7 oA n8 oA n9 m40 n1 n2 n3 n4 n5 oA n6 oA n7 oA n8 n9 m50 n1 oA oB oC n2 n3 kG001 n2 n3
    n4 n5 n6 oA n7 oA oB n8 n9 m10 n1 oA n2 n3 n4 n5 n6 n7 n8 n9 m20 oA n1 n2 n3 n4 n5 n6 oA n7 n8
    n9 m30 n1 n2 n3 n4 n5 n6 oA n7 oA n8 n9 m40 n1 n2 n3 oA n4 n5 oA n6 n7 n8 n9 m50 n1 n2 n3 n4
    kH001 n2 n3 n4 n5 n6 oA n7 n8 kI001 n2 n3 n4 n5 oA n6 n7 n8 n9 oA m10 oA n1 oA n2 n3 n4 n5 kK001
    n2 n3 n4 n5 n6 n7 n8 kL001 n2 oA n3 n4 n5 n6 oA n7 n8 kM001 oA oB n2 n3 oA n4 n5 n6 n7 n8 n9 m10
    oA n1 n2 oA oB oC oD oE oF oG oH n3 n4 n5 oA n6 oA n7 oA n8 n9 m20 n1 n2 oA n3 n4 oA n5 n6 n7 n8
    oA n9 m30 n1 oA n2 n3 oA oB n4 n5 n6 n7 n8 n9 m40 oA n1 n2 n3 n4 kN001 n2 n3 n4 n5 n6 n7 n8 n9
    m10 n1 n2 n3 n4 n5 n6 n7 n8 oA oB n9 m20 n1 n2 n3 n4 n5 oA n6 n7 n8 n9 m30 n1 n2 n3 oA n4 oA n5
    oA n6 n7 oA n8 n9 m40 n1 n2 lL001 o2 o3 o4 o5 pA o6 o7 o8 o9 n10 o1 o2 o3 o4 o5 o6 o7 pA o8 o9
    n20 lU001 o2 o3 o4 o5 o6 o7 o8 o9 n10 pA o1 pA o2 o3 o4 o5 o6 o7 o8 pA o9 n20 o1 o2 pA kO001 oA
    n2 n3 n4 n5 oA n6 oA oB oC oD oE oF n7 n8 n9 m10 oA oB oC n1 n2 n3 n4 n5 n6 n7 n8 n9 oA m20 oA
    n1 n2 n3 n4 oA n5 oA n6 n7 n8 n9 oA m30 oA n1 n2 n3 oA n4 n5 n6 oA oB oC oD n7 n8 n9 m40 n1 n2
    n3 n4 n5 n6 n7 n8 n9 m50 oA oB n1 kP001 oA n2 n3 oA n4 n5 n6 n7 n8 n9 m10 n1 kQ001 n2 n3 n4 n5
    n6 n7 kR001 n2 oA n3 oA oB n4 n5 n6 n7 n8 n9 m10 oA n1 n2 n3 n4 n5 n6 oA n7 n8 n9 m20 n1 n2 n3
    n4 n5 n6 n7 n8 n9 kS001 n2 oA n3 n4 n5 n6 oA n7 n8 n9 m10 n1 n2 n3 n4 oA oB n5 n6 n7 oA n8 n9
    m20 n1 n2 n3 n4 n5 n6 oA oB n7 n8 n9 m30 n1 n2 n3 n4 n5 oA n6 n7 n8 n9 m40 n1 n2 n3 n4 n5 n6
    kT001 n2 n3 oA n4 n5 n6 n7 oA n8 oA n9 oA m10 n1 oA n2 n3 n4 n5 n6 oA n7 n8 n9 m20 n1 n2 n3 n4
    n5 n6 n7 n8 n9 m30 n1 n2 oA n3 oA n4 n5 n6 kU001 n2 n3 n4 n5 n6 oA oB n7 n8 n9 m10 n1 n2 n3 n4
    n5 n6 n7 n8 n9 m20 n1 n2 n3 oA n4 n5 n6 n7 n8 n9 oA m30 n1 n2 oA n3 n4 n5 n6 n7 n8 n9 m40 n1 n2
    kV001 oA oB oC oD oE oF oG oH oI n2 oA n3 n4 n5 n6 n7 oA oB n8 n9 m10 n1 oA oB oC n2 oA oB n3 n4
    n5 n6 n7 n8 n9 m20 oA oB oC oD oE oF oG oH oI oJ oK oL n1 n2 n3 oA n4 n5 n6 n7 n8 oA n9 oA m30
    oA n1 oA n2 n3 oA n4 n5 n6 n7 oA n8 n9 m40 oA kW001 n2 n3 oA n4 n5 n6 n7 n8 n9 oA m10 oA n1 n2
    n3 n4 oA n5 n6 n7 oA n8 oA n9 m20 n1 n2 n3 n4 oA n5 kX001 n2 n3 n4 oA oB n5 n6 oA n7 n8 oA kY001
    oA n2 n3 n4 n5 n6 n7 n8 kZ001 n2 oA oB oC oD n3 oA oB n4 oA n5 oA n6 n7 n8 n9 m10 n1 n2 n3 n4 n5
    oA oB oC oD oE oF oG oH oI n6 oA oB oC oD oE oF oG oH kAA001 o2 o3 o4 o5 o6 o7 pA pB o8 o9 n10
    o1 o2 o3 o4 o5 o6 o7 o8 o9 n20 o1 o2 o3 o4 o5 o6 o7 o8 o9 n30 o1 o2 2:kr+xv ky+xv
    kINSERT+AT+pw+START ufx+START upw+ui ufx+ui kgo+ad kzy+SEGMENT kui+SEGMENT
    fc8:0ANATOLIAN+HIEROGLYPH+A001 o2 o3 o4 o5 o6 o7 o8 o9 n10 pA o1 o2 o3 o4 o5 o6 o7 o8 o9 n20 o1
    o2 o3 o4 o5 o6 pA o7 o8 o9 n30 o1 o2 o3 o4 o5 o6 o7 o8 o9 pA n40 o1 pA o2 o3 o4 o5 pA o6 pA pB
    o7 o8 o9 n50 o1 o2 o3 o4 o5 o6 o7 o8 o9 n60 o1 o2 o3 o4 o5 o6 pA pB pC o7 o8 o9 n70 o1 o2 o3 o4
    o5 o6 o7 o8 o9 n80 o1 o2 o3 o4 o5 o6 o7 o8 o9 n90 o1 o2 o3 o4 o5 o6 o7 pA o8 pA o9 m100 pA o1 pA
    o2 pA o3 o4 pA pB pC o5 pA pB o6 o7 pA pB pC o8 o9 n10 pA pB o1 o2 o3 o4 o5 pA o6 o7 o8 o9 n20
    o1 o2 o3 o4 o5 pA o6 o7 o8 o9 n30 o1 o2 o3 o4 o5 pA o6 o7 o8 o9 n40 o1 o2 o3 o4 o5 o6 o7 o8 o9
    n50 o1 o2 o3 o4 o5 o6 o7 o8 o9 n60 o1 o2 o3 o4 o5 o6 o7 o8 o9 n70 o1 o2 o3 o4 o5 o6 o7 o8 o9 n80
    o1 o2 o3 o4 o5 o6 o7 o8 o9 n90 o1 o2 o3 o4 o5 o6 o7 o8 o9 m200 o1 o2 pA pB o3 o4 o5 o6 o7 pA o8
    o9 pA n10 o1 o2 o3 o4 o5 pA o6 pA o7 o8 o9 n20 o1 o2 o3 o4 o5 o6 o7 pA o8 o9 n30 o1 o2 o3 o4 o5
    o6 o7 o8 o9 n40 o1 o2 o3 o4 o5 o6 o7 o8 o9 n50 o1 o2 o3 o4 o5 o6 o7 o8 o9 n60 o1 o2 o3 o4 o5 o6
    o7 pA o8 o9 n70 o1 o2 o3 o4 o5 o6 o7 o8 o9 n80 o1 o2 o3 o4 o5 o6 o7 o8 o9 pA n90 o1 o2 o3 o4 pA
    o5 o6 o7 o8 o9 pA m300 o1 o2 o3 o4 o5 o6 o7 o8 o9 pA n10 o1 o2 o3 o4 o5 o6 o7 o8 o9 n20 o1 o2 o3
    o4 o5 o6 o7 o8 o9 pA n30 o1 o2A pB pC o3 o4 o5 o6 pA pB pC o7 o8 o9 n40 o1 o2 o3 o4 o5 o6 o7 o8
    o9 n50 o1 o2 o3 o4 o5 o6 o7 o8 o9 pA n60 o1 o2 o3 o4 pA o5 o6 o7 o8 pA o9 n70 o1 pA o2 o3 o4 o5
    o6 o7 o8 o9 n80 o1 pA o2 o3+RA+OR+RI pA o4 o5 o6 pA o7 o8 o9 n90 o1 o2 o3+ar o4 o5 o6 o7 o8 o9
    m400 o1 o2 o3 o4 o5 o6 o7 o8 o9 n10+zy+ya+aj pA+ui+ya+aj o1 o2 o3 o4 o5 o6 o7 o8 o9 n20 o1 o2 o3
    o4 o5 o6 o7 o8 o9 n30 o1 o2 o3 o4 o5 o6 o7 o8 o9 n40 o1 o2 o3 o4 o5 o6 o7 o8 o9 n50 pA o1 o2 o3
    o4 o5 o6 o7 pA o8 o9 n60 o1 o2 o3 o4 o5 o6 o7 o8 o9 n70 o1 o2 o3 o4 o5 o6 o7 o8 o9 n80 o1 o2 o3
    o4 o5 o6 o7 o8 o9 n90 o1 o2 o3 o4 o5 o6 o7 m501 o2 o3 o4 o5 o6 o7 o8 o9 n10 o1 o2 o3 o4 o5 o6 o7
    o8 o9 n20 o1 o2 o3 o4 o5 o6 o7 o8 o9 n30 21ba:0BAMUM+a+PHASE-A+NGKUE+MFON gGBIEE+FON
    gPON+MFON+PIPAEMGBIEE vBA gNAA+MFON gSHUENSHUET gTITA+MFON gNZA+MFON gSHINDA+PA+NJI
    gPON+PA+NJI+PIPAEMGBIEE xBA gMAEMBGBIEE gTU+MAEMBA gNGANGU gMAEMVEUX iNSUAE hVEUAENGAM gSEUNYAM
    gNTOQPEN gKEUKEUTNDA gNKINDI gSUU gNGKUENZEUM gLAPAQ hET+KUT gNTAP+MFAA gMAEKEUP gPASHAE
    gGHEUAERAE gPAMSHAE gMON+NGGEUAET gNZUN+MEUT gU+YUQ+NAE gGHEUAEGHEUAE gNTAP+NTAA gSISA gMGBASA
    hEUNJOMNDEUQ hOOMPUQ gKAFA gPA+LEERAEWA gNDA+LEERAEWA gPET gMAEMKPEN gNIKA gPUP gTUAEP gLUAEP
    gSONJAM gTEUTEUWEN gMAENYI gKET gNDAANGGEUAET gKUOQ gMOOMEUT gSHUM gLOMMAE gFIRI gROM gKPOQ gSOQ
    gMAP+PIEET gSHIRAE gNTAP gSHOQ+NSHUT+YUM gNYIT+MONGKEUAEQ gPAARAE gNKAARAE gUNKNOWN gNGGEN
    gMAESI gNJAM gMBANYI gNYET gTEUAEN gSOT gPAAM gNSHIEE gMAEM gNYI gKAQ gNSHA gVEE gLU gNEN hAQ
    gMBAQ eB+NSHUET gTU+MAEMGBIEE gSIEE hET+TU gLOM+NTEUM gMBA+MAELEE gKIEEM gYEURAE gMBAARAE gKAM
    gPEESHI gYAFU+LEERAEWA grc+NSHUT+NYAM gNTIEE+SHEUOQ hDU+NJAA gGHEUGHEUAEM gPIT gTU+NSIEE
    gSHET+NJAQ jUAEQTU gMFON+TEUAEQ hBIT+MBAAKET gNYI+NTEUM gKEUPUQ gGHEUGHEN gKEUYEUX gLAANAE
    gPARUM gVEUM gNGKINDI+MVOP iGEU+MBU gWUAET gSAKEUAE gTAAM gMEUQ gNGGUOQ m+dc gMFIYAQ gSUE
    gMBEURI hONTIEEN gNYAEMAE gPUNGAAM gMEUT+NGGEET gFEUX gMBUOQ gFEE gKEUAEM gMA+NJEUAENA lUQA gLET
    gNGGAAM hSEN gMA gKIQ gNGOM eC+NGKUE+MAEMBA hZA gYUM gWANGKUOQ gNGGEN hDEUAEREE hGKAQ gGHARAE
    gMBEEKEET gGBAYI gNYIR+MKPARAQ+MEUN hTU+MBIT gMBEUM gPIRIEEN gNDOMBU gMBAA+CABBAGE-TREE
    gKEUSHEUAEP gGHAP gKEUKAQ gYU+MUOMAE gNZEUM gMBUE gNSEUAEN gMBIT gYEUQ gKPARAQ hAA gSEUX gNDIDA
    gTAASHAE gNJUEQ gTITA+YUE gSUAET gNGGUAEN+NYAM gVEUX gNANSANAQ gMA+KEUAERI gNTAA hGGUON gLAP
    gMBIRIEEN hGBASAQ gNTEUNGBA gTEUTEUX gNGGUM gFUE gNDEUT hSA iHAQ gBUNG gVEUAEPEN gMBERAE gRU
    gNJAEM grc gTITUAEP gNSUOT+NGOM hJEEEE gKET gNGGU gMAESI hBUAEM gLU gKUT gNJAM hGOM gWUP
    gNGGUEET hSOM hTEN gKUOP+NKAARAE gNSUN hDAM gMA+NSIEE gYAA gNDAP gSHUEQ hETFON gMBI hAEMBA
    hBANYI gKEUSEUX gMBEUX gKEUM gMBAA+PICKET gYUWOQ gNJEUX gMIEE hUAE gSHIQ gKEN+LAW kFATIGUE gNGAQ
    hAQ gLIQ gPIN hEN gTET eD+MBUO gWAP gNJI gMFON gNJIEE gLIEE gNJEUT hSHEE hGGAAMAE hYAM gWUAEN
    gNGKUN gSHEE gNGKAP gKEUAETMEUN gTEUT gSHEUAE gNJAP gSUE gKET gYAEMMAE gKUOM gSAP gMFEUT gNDEUX
    gMALEERI hEUT gSEUAEQ gYEN gNJEUAEM gKEUOT+MBUAE gNGKEURI gTU gGHAA gNGKYEE gFEUFEUAET gNDEE
    gMGBOFUM gLEUAEP gNDON gMONI hGBEUN gPUUT gMGBIEE hFO gLUM gNSIEEP gMBAA gKWAET gNYET gTEUAEN
    gSOT gYUWOQ gKEUM gRAEM gTEEEE gNGKEUAEQ gMFEUAE gNSIEET gKEUP gPIP hEUTAE gNYUE gLET gNGGAAM
    gMFIEE gNGGWAEN gYUOM gPAP gYUOP gNDAM hTEUM gSUAE gKUN gNGGEUX iKIEE gTUOT gMEUN gKUQ gNSUM
    gTEUN gMAENJET gNGGAP gLEUM gNGGUOM hSHUT hJUEQ gGHEUAE gKU gREN+ma gTAE hOQ gNYI gRII gLEEEE
    gMEEEE h gSUU gMU gSHII iEUX gKYEE gNU gSHU gNTEE gPEE gNI gSHOQ gPUQ gMVOP gLOQ gREN+MUCH gTI
    gNTUU gMBAA+au gSAQ gFAA eE+NDAP gTOON gMBEUM gLAP gVOM gLOON gPAA gSOM gRAQ gNSHUOP hDUN gPUAE
    gTAM gNGKA gKPEUX gWUO gSEE gNGGEUAET gPAAM gTOO gKUOP gLOM gNSHIEE hGOP gMAEM gNGKEUX iOQ hSHUE
    gRIMGBA gNJEUX gPEEM gSAA gNGGURAE gMGBA gGHEUX gNGKEUAEM hJAEMLI gMAP gLOOT gNGGEEEE hDIQ
    gTAEN+NTEUM gSET gPUM gNDAA+SOFTNESS hGGUAESHAE+NYAM gYIEE gGHEUN gTUAE gYEUAE gPO gTUMAE gKEUAE
    gSUAEN gTEUAEQ gVEUAE gWEUX gLAAM gPU gTAAQ gGHAAMAE gNGEUREUT gSHEUAEQ gMGBEN hBEE gNZAQ hKOM
    gGBET gTUM gKUET gYAP gNYI+CLEAVER gYIT gMFEUQ gNDIAQ gPIEEQ gYUEQ gLEUAEM gFUE gGBEUX gNGKUP
    gKET gMAE gNGKAAMI gGHET gFA gNTUM gPEUT gYEUM gNGGEUAE hYI+il hZUQ gPOON gMIEE gFUET gNAE gMUAE
    gGHEUAE gFU+I gMVI gPUAQ gNGKUM gKUT gPIET gNTAP gYEUAET gNGGUP gPA+PEOPLE gFU+CALL hOM gNJEE gA
    gTOQ gO gI gLAQ gPA+PLURAL gTAA iQ gNDAA+MY+HOUSE gSHIQ gYEUX gNGUAE gYUAEN hOQ+SWIMMING kCOVER
    hUQ iN gKEUX gPEUX gNJEE+EPOCH gPUE gWUE gFEE gVEE gLU gMI gREUX hAE gNGUAET gjc gSHO jQ
    gFU+REMEDY gNA gPI gLOQ gKO gMEN hA iQ gTEU gKI gMON gik gFAQ gGHOM eF+KA gU gKU gEE gREE gTAE
    gNYI gLA gRII iEE gMEEEE gTAA gNDAA hJAEM gM gSUU hHII hI hEUX gKYEE hET gNUAE i hJUAE gYOQ gSHU
    gYA gNSHA gPEUX gNTEE gWUE gPEE gRU gNI gREUX gKEN gNGKWAEN iGA gSHO gPUAE gFOM gWA gLI hOQ gKO
    gMBEN gREN gMA hO hBAA gTET gKPA gSAMBA gVUEQ 8:0MRO+a+TA 6NGI 6YO 6MIM 6BA 6DA 6A 6yh 6KHAI
    6HAO 6DAI 6CHU 6KEAAE 6OL 6MAEM 6NIN 6PA 6OO 7 6RO 6SHI 6THEA 6EA 6WA 6E 6KO 6LAN 8 6HAI 6RI
    6TEK 2:4br+du 7bs 8n 7t 7at 8y 7ev 7au 8r 7cj 5:4hz 4l+hz 0TANGSA+a+OZ aC aQ aX 9AZ aC aQ aX 9VZ
    aC aQ aX 9EZ aC aQ aX 9IZ aC aQ aX 9UZ aC aQ aX 9AWZ bC bQ bX 9UIZ bC bQ bX 9n+NG 9eh+UEX at+UEZ
    cAWX 9UEC bZ bQ bX aIUZ cC cQ cX 9MZ aC aQ aX 9KA 9ke 9GA 9jc 9SA 9YA 9WA 9PA 9jz 9lv 9BA 9MA
    9NA 9HA 9LA 9HTA 9TA 9DA 9RA 9NHA 9jd 9CA 9uk 9nu 9HTTA 9lc 9XA 9FA 9nt 9ju 9ZA 2:7br+du abs bn
    at aat by aev aau br acj 7:0BASSA+VAH+a+ENNI cKA cSE cFA cMBE cYIE cGAH cDHII cKPAH cJO cHWAH
    cWA cZO cGBU cDO cCE cUWU cTO cBA cVU cYEIN cPA cWADDA cA cO dO cU cEE d cI 3:ack+ew+el dhl+el
    dMID+el dLOW-MID+el dHIGH-LOW+el ahd+fb b:0PAHAWH+HMONG+bm+KEEB jV hIB iV hAUB jV hUB iV hEB iV
    hAIB jV hOOB jV hAWB jV hUAB jV hOB iV hIAB jV hAB iV hWB iV hAAB jV deq+VAU gNTSAU gLAU gHAU
    gNLAU gRAU gNKAU gQHAU gYAU gHLAU gMAU gCHAU gNCHAU gHNAU gPLHAU gNTHAU hAU gAU gXAU gCAU
    daj+CIM+TUB kSO kKES lHAV kSUAM kHOM kTAUM dg+VOS+THOM kSHAB+CEEB fCIM+CHEEM fVOS+THIAB jFEEM
    fXYEEM+NTXIV lwj lTOV lFAIB fVOS+SEEV fMEEJ+SUAB fVOS+NRUA fIB+YAM fXAUS fCIM+TSOV+ROG b:dbr+du
    gbs hn gt gat hy gev gau hr gcj 2:dcq+TENS gHUNDREDS gik+mz gre gab+re gik+BILLIONS gTRILLIONS
    2:dg+VOS+LUB fXYOO fHLI fTHIRD-STAGE+HLI fZWJ+THAJ fHNUB fNQIG fXIAB fNTUJ fAV fTXHEEJ+CEEV
    fMEEJ+TSEEB fTAU fLOS fMUS fCIM+HAIS+LUS+NTOG+NTOG jCUAM+TSHOOJ jTXWV n+CHWV jPUB+DAWB jNRES+TOS
    6:dCLAN+g+TSHEEJ kYEEG kLIS lAUJ kXYOOJ kKOO kHAWJ kMUAS kTHOJ lSAB kPHAB kKHAB kHAM kVAJ kFAJ
    kYAJ kTSWB kKWM kVWJ 2b1:0MEDEFAIDRIN+c+a+M gS gV gW gATIU gZ gKP gP gT gG gF gI gK gA gJ gE gB
    gC gU gYU gL gQ gHP gNY gX gD gOE gN gR gO gAI gY cd+a+M gS gV gW gATIU gZ gKP gP gT gG gF gI gK
    gA gJ gE gB gC gU gYU gL gQ gHP gNY gX gD gOE gN gR gO gAI gY cbr+du fbs gn ft fat gy fev fau gr
    fcj ccq+ik foo fme fpu gf fml fog fmy fnh fpj cbr+bs+ep+e gn+ep+e ft+ep+e cdp chd+fb cw+AIVA
    ccy+OH 66:1IAO+a+PA 7BA 7YI+PA 7PLA 7MA 8HA 7hq+MA 7FA 7VA 8FA 7TA 7DA 7YI+na aTA 7na 8g 7NA 8HA
    7YI+os 7hq+NA 7os 7NNHA 7LA 8YA 8HA 9YA 7TLHA 7DLHA 7TLHYA 7DLHYA 7KA 7GA 7YI+KA 7QA 8GA 7jc
    7NGHA 7hq+jc 7HA 7XA 7nu 7GHHA 7TSSA 7DZZA 7jz 7NYHA 7vb 7DZHA 7YI+vb aDZHA 7REFORMED+vb 7jd 7qj
    7ZHA 8SHA 7uk 7DZA 7YI+uk 7SA 7ZA 8SA 8ZA 9SA 7hq+ZZA 7ZZYA 9SYA 7WA 7AH 7HHA 7BRI 7SYI 7DZYI
    7TE 8SE 7RTE 5:5g+eq+dx+fa 5a+NASALIZATION 5g+ASPIRATION 7REFORMED+VOICING gASPIRATION 5bm+g+A
    bA bHH bN cG aO bO aWO b aE bN cG aOEY aI bA cN dG bO bE bI bU bNG aU bA cN dG bU bEI bNG aY bI
    aAE cE aERR aoe+ERR aER aoe+ER aAI aEI aAU aOU aN bG aUOG aYUI aOG bER aVW aIG aEA aIONG aUI
    8:5el+h 8pw+h 8i 8m 5a+TONE-2 c3 c4 c5 c6 c7 c8 7REFORMED+TONE-1 l2 l4 l5 l6 l8 41:0TANGUT+lm+aj
    0NUSHU+lm+aj 0ma+CHINESE+av+aj blm+aj 0KHITAN+d+hn+st c:0VIETNAMESE+ep+READING+aj+CA pNHAY
    180f:0TANGUT+COMPONENT-001 j2 j3 j4 j5 j6 j7 j8 j9 i10 j1 j2 j3 j4 j5 j6 j7 j8 j9 i20 j1 j2 j3
    j4 j5 j6 j7 j8 j9 i30 j1 j2 j3 j4 j5 j6 j7 j8 j9 i40 j1 j2 j3 j4 j5 j6 j7 j8 j9 i50 j1 j2 j3 j4
    j5 j6 j7 j8 j9 i60 j1 j2 j3 j4 j5 j6 j7 j8 j9 i70 j1 j2 j3 j4 j5 j6 j7 j8 j9 i80 j1 j2 j3 j4 j5
    j6 j7 j8 j9 i90 j1 j2 j3 j4 j5 j6 j7 j8 j9 h100 j1 j2 j3 j4 j5 j6 j7 j8 j9 i10 j1 j2 j3 j4 j5 j6
    j7 j8 j9 i20 j1 j2 j3 j4 j5 j6 j7 j8 j9 i30 j1 j2 j3 j4 j5 j6 j7 j8 j9 i40 j1 j2 j3 j4 j5 j6 j7
    j8 j9 i50 j1 j2 j3 j4 j5 j6 j7 j8 j9 i60 j1 j2 j3 j4 j5 j6 j7 j8 j9 i70 j1 j2 j3 j4 j5 j6 j7 j8
    j9 i80 j1 j2 j3 j4 j5 j6 j7 j8 j9 i90 j1 j2 j3 j4 j5 j6 j7 j8 j9 h200 j1 j2 j3 j4 j5 j6 j7 j8 j9
    i10 j1 j2 j3 j4 j5 j6 j7 j8 j9 i20 j1 j2 j3 j4 j5 j6 j7 j8 j9 i30 j1 j2 j3 j4 j5 j6 j7 j8 j9 i40
    j1 j2 j3 j4 j5 j6 j7 j8 j9 i50 j1 j2 j3 j4 j5 j6 j7 j8 j9 i60 j1 j2 j3 j4 j5 j6 j7 j8 j9 i70 j1
    j2 j3 j4 j5 j6 j7 j8 j9 i80 j1 j2 j3 j4 j5 j6 j7 j8 j9 i90 j1 j2 j3 j4 j5 j6 j7 j8 j9 h300 j1 j2
    j3 j4 j5 j6 j7 j8 j9 i10 j1 j2 j3 j4 j5 j6 j7 j8 j9 i20 j1 j2 j3 j4 j5 j6 j7 j8 j9 i30 j1 j2 j3
    j4 j5 j6 j7 j8 j9 i40 j1 j2 j3 j4 j5 j6 j7 j8 j9 i50 j1 j2 j3 j4 j5 j6 j7 j8 j9 i60 j1 j2 j3 j4
    j5 j6 j7 j8 j9 i70 j1 j2 j3 j4 j5 j6 j7 j8 j9 i80 j1 j2 j3 j4 j5 j6 j7 j8 j9 i90 j1 j2 j3 j4 j5
    j6 j7 j8 j9 h400 j1 j2 j3 j4 j5 j6 j7 j8 j9 i10 j1 j2 j3 j4 j5 j6 j7 j8 j9 i20 j1 j2 j3 j4 j5 j6
    j7 j8 j9 i30 j1 j2 j3 j4 j5 j6 j7 j8 j9 i40 j1 j2 j3 j4 j5 j6 j7 j8 j9 i50 j1 j2 j3 j4 j5 j6 j7
    j8 j9 i60 j1 j2 j3 j4 j5 j6 j7 j8 j9 i70 j1 j2 j3 j4 j5 j6 j7 j8 j9 i80 j1 j2 j3 j4 j5 j6 j7 j8
    j9 i90 j1 j2 j3 j4 j5 j6 j7 j8 j9 h500 j1 j2 j3 j4 j5 j6 j7 j8 j9 i10 j1 j2 j3 j4 j5 j6 j7 j8 j9
    i20 j1 j2 j3 j4 j5 j6 j7 j8 j9 i30 j1 j2 j3 j4 j5 j6 j7 j8 j9 i40 j1 j2 j3 j4 j5 j6 j7 j8 j9 i50
    j1 j2 j3 j4 j5 j6 j7 j8 j9 i60 j1 j2 j3 j4 j5 j6 j7 j8 j9 i70 j1 j2 j3 j4 j5 j6 j7 j8 j9 i80 j1
    j2 j3 j4 j5 j6 j7 j8 j9 i90 j1 j2 j3 j4 j5 j6 j7 j8 j9 h600 j1 j2 j3 j4 j5 j6 j7 j8 j9 i10 j1 j2
    j3 j4 j5 j6 j7 j8 j9 i20 j1 j2 j3 j4 j5 j6 j7 j8 j9 i30 j1 j2 j3 j4 j5 j6 j7 j8 j9 i40 j1 j2 j3
    j4 j5 j6 j7 j8 j9 i50 j1 j2 j3 j4 j5 j6 j7 j8 j9 i60 j1 j2 j3 j4 j5 j6 j7 j8 j9 i70 j1 j2 j3 j4
    j5 j6 j7 j8 j9 i80 j1 j2 j3 j4 j5 j6 j7 j8 j9 i90 j1 j2 j3 j4 j5 j6 j7 j8 j9 h700 j1 j2 j3 j4 j5
    j6 j7 j8 j9 i10 j1 j2 j3 j4 j5 j6 j7 j8 j9 i20 j1 j2 j3 j4 j5 j6 j7 j8 j9 i30 j1 j2 j3 j4 j5 j6
    j7 j8 j9 i40 j1 j2 j3 j4 j5 j6 j7 j8 j9 i50 j1 j2 j3 j4 j5 j6 j7 j8 j9 i60 j1 j2 j3 j4 j5 j6 j7
    j8 24f1:0kt+a+MINNAN+TONE-2 h3 h4 h5 2:h7 h8 cNASALIZED+TONE-1 r2 r3 r4 r5 2:r7 r8 2:5hq+E
    0tl+a+hq+YE 0HENTAIGANA+a+A-1 f2 f3 fWO dI-1 f2 f3 f4 dU-1 f2 f3 f4 f5 dE-2 f3 f4 f5 f6 dO-1 f2
    f3 dKA-1 g2 g3 g4 g5 g6 g7 g8 g9 g10 h1 gKE eI-1 g2 g3 g4 g5 g6 g7 g8 eU-1 g2 g3 g4 g5 g6 g7
    eE-1 g2 g3 g4 g5 g6 eO-1 g2 g3 gKI dSA-1 g2 g3 g4 g5 g6 g7 g8 eI-1 g2 g3 g4 g5 g6 eU-1 g2 g3 g4
    g5 g6 g7 g8 eE-1 g2 g3 g4 g5 eO-1 g2 g3 g4 g5 g6 g7 dTA-1 g2 g3 g4 eI-1 g2 g3 g4 g5 g6 g7 eU-1
    g2 g3 g4 gTO eE-1 g2 g3 g4 g5 g6 g7 g8 g9 eO-1 g2 g3 g4 g5 g6 gRA dNA-1 g2 g3 g4 g5 g6 g7 g8 g9
    eI-1 g2 g3 g4 g5 g6 g7 gTE eU-1 g2 g3 eE-1 g2 g3 g4 g5 g6 gKO eO-1 g2 g3 g4 g5 dHA-1 g2 g3 g4 g5
    g6 g7 g8 g9 g10 h1 eI-1 g2 g3 g4 g5 g6 g7 eU-1 g2 g3 eE-1 g2 g3 g4 g5 g6 g7 eO-1 g2 g3 g4 g5 g6
    g7 g8 dMA-1 g2 g3 g4 g5 g6 g7 eI-1 g2 g3 g4 g5 g6 g7 eU-1 g2 g3 g4 eE-1 g2 gMA eO-1 g2 g3 g4 g5
    g6 dYA-1 g2 g3 g4 g5 gYO eU-1 g2 g3 g4 eO-1 g2 g3 g4 g5 g6 dRA-1 g2 g3 g4 eI-1 g2 g3 g4 g5 g6 g7
    eU-1 g2 g3 g4 g5 g6 eE-1 g2 g3 g4 eO-1 g2 g3 g4 g5 g6 dWA-1 g2 g3 g4 g5 eI-1 g2 g3 g4 g5 eE-1 g2
    g3 g4 eO-1 g2 g3 g4 g5 g6 g7 dN-MU-MO-1 l2 0tl+a+hq+WU 0kt+a+hq+YI 9E 8WU 2e:0tl+a+d+WI 8E 8O
    12:0kt+a+d+WI 8E 8O 7N a99:0DUPLOYAN+a+H bX bP bT bF bK bL bB bD bV bG bR bP+N bD+S bF+N bK+M
    bR+S bTH bSLOAN+DH bDH bKK bSLOAN+J bHL bLH bRH bM bN bJ bS bM+N bN+M bJ+M bS+J bM+b+bw bN+b+bw
    bJ+b+bw fcu+jh+p+i bS+b+bw h+m bM+S bN+S bJ+S bS+S bM+N+S bN+M+S bJ+M+S bS+J+S bJ+S+b+bw dN e+S
    bS+T e+R dP e+R bT+S dR+S bW cH c+R bS+N dM bK+R+S bG+R+S bS+K e+R bA bSLOAN+OW bOA c bAOU bI bE
    bIE bet+I bUI bEE bSLOAN+EH bROMANIAN+I bSLOAN+EE beh+I bYE bU bEU bXW bU+N beh+U bROMANIAN+U
    bUH bSLOAN+U bOOH cW cU bWA cO cI cEI cOW bNASAL+U hO hI hA bPERNIN+AN jM bSLOAN+EN hAN hON
    bby+M 6:9AFFIX+o+y+uy fMID+y+uy fh+y+uy gl+r+uy fMID+r+uy few+r+uy ftc+uy ior+uy iTANGENT igu
    iE+av iI+av iTANGENT+av 4:few+ca iTIGHT+ca idf ieh+df ibw iao ift ipv ir 8:fhl+ca iTIGHT+ca idf
    ieh+df ibw iao ift ipv ir if 3:9g+O+b+fn 9THICK+a+SELECTOR 9l+aj 9bc+CHINOOK+hd+fb
    0SHORTHAND+FORMAT+a+OVERLAP hCONTINUING+OVERLAP hcb+STEP hUP+STEP
    125d:0ZNAMENNY+ck+aj+GORAZDO+NIZKO+S+lr+ON+o fNIZKO+S+lr+ON+o fTSATA+ON+o fGORAZDO+NIZKO+ON+o
    fNIZKO+ON+o fSREDNE+ON+o fMALO+lt+ON+o flt+ON+o fVYSOKO+ON+o fMALO+lt+S+tq+ON+o flt+S+tq+ON+o
    fVYSOKO+S+tq+ON+o fGORAZDO+NIZKO+S+lr+ON+h fNIZKO+S+lr+ON+h fTSATA+ON+h fGORAZDO+NIZKO+ON+h
    fNIZKO+ON+h fSREDNE+ON+h fMALO+lt+ON+h flt+ON+h fVYSOKO+ON+h fMALO+lt+S+tq+ON+h flt+S+tq+ON+h
    fVYSOKO+S+tq+ON+h fTSATA+S+lr fMALO+lt+S+lr fSTRANNO+MALO+lt flt+S+lr jTRANNO fVYSOKO+S+lr
    fMALO+lt+STRANNO fGORAZDO+VYSOKO fZELO fON fRAVNO fTIKHAYA fBORZAYA fUDARKA fPODVERTKA fLOMKA
    fKUPNAYA gACHKA fZEVOK fSKOBA fRAZSEKA fKRYZH+ON+o 3:cTONAL+RANGE+aj+MRACHNO rSVETLO rTRESVETLO
    caj+ZADERZHKA fDEMESTVENNY+ZADERZHKA fOTSECHKA fPODCHASHIE p+b+r+u fCHASHKA m+POLNAYA fOBLACHKO
    fSOROCHYA+NOZHKA fTOCHKA fDVOETOCHIE cATTACHING+r+OMET caj+qa+OMET fKRYZH cbt+TONAL+RANGE+mw
    9PRIZNAK+dx+LEVEL-2 q3 kDIRECTION+FLIP kKRYZH kROG a:9NEUME+KRYUK k+TIKHY fPARAKLIT
    fDVA+V+CHELNU fKLYUCH fZANOZHEK fSTOPITSA n+S+OCHKOM fPEREVODKA o+nk fSTOPITSA+b+SOROCHYA+NOZHKA
    fCHELYUSTKA fPALKA fnc fGOLUBCHIK+BORZY pTIKHY pMRACHNY pSVETLY pTRESVETLY fVRAKHIYA+PROSTAYA
    oMRACHNAYA opt owa olu+PROSTAYA rMRACHNAYA rpt rwa fl+nc faq+CHELYUSTKA fDERBITSA fKHAMILO
    fCHASHKA fPODCHASHIE fSKAMEYTSA+MRACHNAYA ppt pwa pTIKHAYA fDEMESTVENNY+KLYUCH fSKAMEYTSA+lu+pt
    pKLYUCHENEPOSTOYANNAYA plu+TIKHAYA pDVOECHELNAYA+PROSTAYA zYA+pt zYA+nk zYA+lu gLOZHITIE o+S+uh
    pZAKRYTOE pS+lr fKRYZH fROG fFITA fKOBYLA fZMEYTSA fSTATYA l+S+uh olr ouh+I+lr olr+I+uh
    mZAKRYTAYA v+S+uh mS+ROGOM oDVUMYA+ZAPYATYMI ouh+I+PODCHASHIEM fPOLKULIZMY fSTATYA+nk
    hRELA+PROSTAYA mMRACHNOTIKHAYA mKRYZHEVAYA mPOLUPOVODNAYA oVODNAYA mnk mKLYUCHEPOVODNAYA
    tNEPOSTOYANNAYA mTIKHAYA+PUTNAYA mDVOECHELNAYA vOKRYZHEVAYA wPOVODNAYA vAYA+lu vOPOVODNAYA+lu
    mGROMNAYA+b+ce+nc mqw+b+ce+nc mGROMNAYA mqw o+b+l+nc mGROMOKRYZHEVAYA zYA+POVODNAYA fMECHIK
    l+POVODNY mKLYUCHEVOY tPOVODNY tNEPOSTOYANNY fSTRELA+TRYASOGLASNAYA sPOVODNAYA sSTRELNAYA fOSOKA
    k+pt lwa lKRYUKOVAYA+pt llu+pt onk fSTRELA+KRYUKOVAYA w+POVODNAYA xGROMNAYA+b+ce+nc xqw+b+ce+nc
    xGROMNAYA xqw z+b+l+nc xGROMOKRYZHEVAYA zOMOKRYZHEVAYA+POVODNAYA xTRYASKA fKUFISMA fOBLAKO fDUDA
    fNEMKA fPAUK 3d:0BYZANTINE+ls+w+cx fDASEIA faz fOXEIA+vm lDIPLI fVAREIA+vm mDIPLI fKATHISTI
    fSYRMATIKI fPARAKLITIKI fYPOKRISIS o+DIPLI fKREMASTI fAPESO+vm fEXO+vm fTELEIA fur fAPOSTROFOS
    p+DIPLI fSYNEVMA fTHITA fOLIGON+gp fGORGON+gp fPSILON fCHAMILON fVATHY fISON+gp fKENTIMA+gp
    fur+gp fSAXIMATA fPARICHON fSTAVROS+APODEXIA fOXEIAI+gp fVAREIAI+gp fAPODERMA+gp iTHEMA fKLASMA
    fREVMA fPIASMA+gp fTINAGMA fANATRICHISMA fSEISMA gYNAGMA+gp nMETA+STAVROU fOYRANISMA+gp fTHEMA
    fLEMOI fDYO fTRIA gESSERA fKRATIMATA fAPESO+EXO+wh fFTHORA+gp fIMIFTHORA fTROMIKON+gp
    fKATAVA+TROMIKON fPELASTON gSIFISTON fKONTEVMA fCHOREVMA+gp fRAPISMA fPARAKALESMA+gp kLITIKI+gp
    fICHADIN fNANA fPETASMA fKONTEVMA+ALLO fTROMIKON+ALLO fSTRAGGISMATA fGRONTHISMATA fISON+wh
    fOLIGON+wh gXEIA+wh fPETASTI fKOUFISMA fPETASTOKOUFISMA fKRATIMOKOUFISMA fPELASTON+wh fur+wh+ANO
    fKENTIMA+wh+ANO fYPSILI fAPOSTROFOS+wh oI+SYNDESMOS+wh fYPORROI fKRATIMOYPORROON fELAFRON
    fCHAMILI fMIKRON+ISON fVAREIA+wh fPIASMA+wh gSIFISTON+wh fOMALON fANTIKENOMA fLYGISMA
    fPARAKLITIKI+wh kALESMA+wh fETERON+PARAKALESMA fKYLISMA fANTIKENOKYLISMA fTROMIKON+wh
    fEKSTREPTON fSYNAGMA+wh hRMA fCHOREVMA+wh fEPEGERMA fSEISMA+wh fXIRON+KLASMA fTROMIKOPSIFISTON
    fPSIFISTOLYGISMA fTROMIKOLYGISMA mPARAKALESMA fPSIFISTOPARAKALESMA fTROMIKOSYNAGMA
    fPSIFISTOSYNAGMA fGORGOSYNTHETON fARGOSYNTHETON fETERON+ARGOSYNTHETON fOYRANISMA+wh
    fTHEMATISMOS+ESO sXO k+APLOUN iS+KAI+APOTHES fKATAVASMA fENDOFONON fYFEN+KATO kANO fSTAVROS
    fKLASMA+ANO fDIPLI+gp fKRATIMA+gp nALLO nwh fAPODERMA+wh hLI fDIPLI fTRIPLI gETRAPLI fKORONIS
    fLEIMMA+ENOS+CHRONOU mDYO+CHRONON mTRION+CHRONON nESSARON+CHRONON mIMISEOS+CHRONOU
    fGORGON+wh+ANO mPARESTIGMENON+ARISTERA z+DEXIA fDIGORGON n+PARESTIGMENON+ARISTERA+KATO
    zON+ARISTERA+ANO zON+DEXIA fTRIGORGON fARGON fIMIDIARGON fDIARGON fAGOGI+POLI+ARGI lARGOTERI oI
    lMETRIA nSI lGORGI pOTERI lPOLI+GORGI fMARTYRIA+PROTOS+qy oALLI+PROTOS+qy oDEYTEROS+qy
    oALLI+DEYTEROS+qy oTRITOS+qy rFONIAS pETARTOS+qy xLEGETOS+qy oLEGETOS+qy oPLAGIOS+qy
    fISAKIA+TELOUS+ICHIMATOS fAPOSTROFOI+TELOUS+ICHIMATOS fFANEROSIS+TETRAFONIAS pMONOFONIAS
    pDIFONIAS fMARTYRIA+VARYS+qy oPROTOVARYS+qy pLAGIOS+TETARTOS+qy fGORTHMIKON+N+APLOUN sDIPLOUN
    fENARXIS+KAI+FTHORA+VOU fIMIFONON jTHORON fFTHORA+gp+DEYTEROU+ICHOU mDIATONIKI+PA wNANA mNAOS+qy
    mDIATONIKI+DI mSKLIRON+DIATONON+DI mDIATONIKI+KE wZO wNI+KATO zANO mMALAKON+CHROMA+DIFONIAS
    zA+MONOFONIAS gHTORA+SKLIRON+CHROMA+VASIS gTHORA+SKLIRON+CHROMA+SYNAFI mNENANO fCHROA+ZYGOS
    lKLITON lSPATHI fFTHORA+I+YFESIS+TETARTIMORION mENARMONIOS+ANTIFONIA fYFESIS+TRITIMORION
    fDIESIS+TRITIMORION nETARTIMORION mAPLI+DYO+pc mMONOGRAMMOS+TESSERA+pc mDIGRAMMOS+EX+pc
    mTRIGRAMMOS+OKTO+pc fYFESIS+APLI+DYO+pc mMONOGRAMMOS+TESSERA+pc mDIGRAMMOS+EX+pc
    mTRIGRAMMOS+OKTO+pc fGENIKI+DIESIS mYFESIS fDIASTOLI+APLI+MIKRI uEGALI oDIPLI oTHESEOS
    fSIMANSIS+THESEOS v+DISIMOU wTRISIMOU xETRASIMOU oARSEOS u+DISIMOU vTRISIMOU wETRASIMOU
    fDIGRAMMA+GG hFTOGGOS+OU fSTIGMA fARKTIKO+PA nVOU nGA nDI nKE nZO nNI fur+wh+MESO
    fKENTIMA+wh+MESO fur+wh+KATO fKENTIMA+wh+KATO gLASMA+KATO fGORGON+wh+KATO b:0ls+w+ce+wl 5l+wl
    5n+wl 5hg+n+wl 5nf+wl 5et+wl 5o+REPEAT+g 5h+REPEAT+g 5REPEAT+cu 5DAL+SEGNO 7+CAPO 5SEGNO 5CODA
    5REPEATED+FIGURE-1 l2 l3 5FERMATA c+m 5BREATH+aj 5CAESURA 5BRACE 5ae 5ONE-LINE+STAFF
    5TWO-LINE+STAFF 6HREE-LINE+STAFF 5FOUR-LINE+STAFF 6IVE-LINE+STAFF 5SIX-LINE+STAFF
    9STRING+FRETBOARD 5FOUR-STRING+FRETBOARD 5G+CLEF b+OTTAVA+ALTA jBASSA 5C+CLEF 5F+CLEF
    b+OTTAVA+ALTA jBASSA 5DRUM+CLEF-1 f2 3:5ji+wu+sd 5l+SHARP 7FLAT 5FLAT+UP acb 5NATURAL+UP dcb
    5SHARP+UP bcb 5ek+el+SHARP bFLAT 5COMMON+TIME 6UT+TIME 5OTTAVA+ALTA cBASSA 5QUINDICESIMA+ALTA
    iBASSA 5MULTI+sd 5WHOLE+sd 5cc+sd 5ek+sd 5hb+sd 5rv+sd 5zu+sd 5SIXTY-FOURTH+sd
    5bs+ab+TWENTY-EIGHTH+sd 5X+jw 5bx+jw 5ao+X+jw 6n+jw+z bx 6h+jw+UP+z ex bo+z dx bh+z dx bcb+z ex
    bUP+h+z gx 5mn+jw+z bx 5TRIANGLE-ROUND+jw+cb+z qx 5bd+jw 5VOID+jw 5jw+x 5NULL+jw 5CLUSTER+jw+z
    gx 5ee 5WHOLE+ql 5cc+ql 5ek+ql 5hb+ql 5rv+ql 5zu+ql 5SIXTY-FOURTH+ql 5bs+ab+TWENTY-EIGHTH+ql
    5ck+STEM 9PRECHGESANG+STEM 8TREMOLO-1 g2 g3 5FINGERED+TREMOLO-1 m2 m3 5ck+AUGMENTATION+bw
    8FLAG-1 d2 d3 d4 d5 5zy+BEAM 5ui+BEAM 5zy+TIE 5ui+TIE 5zy+SLUR 5ui+SLUR 5zy+PHRASE 5ui+PHRASE
    5ck+eu 8STACCATO 8TENUTO 8STACCATISSIMO 8MARCATO f-STACCATO 8ACCENT-STACCATO 8LOURE
    5ARPEGGIATO+UP gcb 5ck+DOIT 8RIP 8FLIP 8SMEAR 8BEND 8l+yu 8dr+yu 5RINFORZANDO 5SUBITO 5Z 5PIANO
    5MEZZO 5FORTE 5CRESCENDO 5DECRESCENDO 5GRACE+ql+oh eNO+oh 5TR 6URN 5ba+TURN 5TURN+oh aUP
    5bo+STROKE-1 f2 f3 f4 f5 f6 f7 f8 f9 f10 g1 5HAUPTSTIMME 5NEBENSTIMME 5ui+OF+STIMME 5DEGREE+oh
    5ck+cb+BOW 8UP+BOW 8HARMONIC 8SNAP+PIZZICATO 5PEDAL+aj bUP+aj 5cc+PEDAL+aj 5GLISSANDO+UP fcb
    5b+FINGERNAILS 5DAMP 9+ALL 5MAXIMA 5LONGA 5BREVIS 5SEMIBREVIS+z gx 5MINIMA b+x 5SEMIMINIMA+z gx
    5FUSA+z ax 5LONGA+PERFECTA+sd bIMPERFECTA+sd 5BREVIS+sd 5SEMIBREVIS+sd 5MINIMA+sd 5SEMIMINIMA+sd
    5TEMPUS+PERFECTUM+CUM+PROLATIONE+PERFECTA zE+IMPERFECTA zE+PERFECTA+DIMINUTION-1
    cIMPERFECTUM+CUM+PROLATIONE+PERFECTA zONE+IMPERFECTA zONE+IMPERFECTA+DIMINUTION-1
    zONE+IMPERFECTA+DIMINUTION-2 zONE+IMPERFECTA+DIMINUTION-3 5CROIX 5GREGORIAN+C+CLEF fF+CLEF 5an+B
    5VIRGA 5PODATUS 5CLIVIS 5SCANDICUS 5CLIMACUS 5TORCULUS 5PORRECTUS e+FLEXUS 5SCANDICUS+FLEXUS
    5TORCULUS+RESUPINUS 5PES+SUBPUNCTIS 5KIEVAN+C+CLEF cui+OF+PIECE cn+ql cRECITATIVE+aj cWHOLE+ql
    ccc+ql cek+ql+STEM+cb nUP chb+ql+STEM+cb nUP cFLAT+g 5SORI 5KORON 16:0jg+VOCAL+pk+SYMBOL-1 j2 j3
    j4 j5 j6 j7 j8 j9 j10 k1 k2 k3 k4 k5 k6 k7 k8 k9 j20 k1 k2 k3 k4 j50 k1 k2 k3 k4
    3INSTRUMENTAL+pk+SYMBOL-1 q2 q4 q5 q7 q8 q11 r2 r3 r4 r7 r8 r9 q23 r4 r5 r6 r7 r9 q30 r2 r6 r7
    r8 r9 q40 r2 r3 r5 r7 r8 r9 q50 r1 r2 r3 r4 0ck+jg+ls+TRISEME aETRASEME 9PENTASEME 0jg+ls+LEIMMA
    9b:0MAYAN+oc+du 9bs an 9t 9at ay 9ev 9au ar 9cj 9ik 9oo 9me 9pu af 9ml 9og 9my 9nh 9pj
    d:0tt+qm+qh 0DIGRAM+qm+HEAVENLY+qh bUMAN+qh aEARTHLY+HEAVEN jUMAN aqh 0TETRAGRAM+qm+cz dhd+ao
    dMIRED dBARRIER dKEEPING+d dCONTRARIETY dASCENT dOPPOSITION dBRANCHING+OUT
    dDEFECTIVENESS+OR+DISTORTION eIVERGENCE dYOUTHFULNESS dINCREASE dPENETRATION dREACH dwm eq+ze
    dWAITING dFOLLOWING dADVANCE dRELEASE fSISTANCE dEASE dJOY dCONTENTION dENDEAVOUR dDUTIES
    dCHANGE dDECISIVENESS dlh+RESOLUTION dPACKING dLEGION dCLOSENESS dKINSHIP dGATHERING dSTRENGTH
    dPURITY dFULLNESS dRESIDENCE dLAW+OR+MODEL dRESPONSE dGOING+TO+MEET dENCOUNTERS dSTOVE
    dGREATNESS dENLARGEMENT dPATTERN dRITUAL dFLIGHT dVASTNESS+OR+WASTING dCONSTANCY dwu dETERNITY
    dUNITY dDIMINISHMENT dfk+kx dGUARDEDNESS eATHERING+IN dMASSING dACCUMULATION dEMBELLISHMENT
    dDOUBT dWATCH dSINKING dINNER dDEPARTURE eARKENING eIMMING dEXHAUSTION dSEVERANCE eTOPPAGE
    dHARDNESS dCOMPLETION eLOSURE dFAILURE dAGGRAVATION dCOMPLIANCE dON+qn+VERGE dDIFFICULTIES
    dLABOURING dFOSTERING a:0COUNTING+ROD+UNIT+br+bs mn lt lat my lev lau mr lcj dTENS+br+bs mn lt
    lat my lev lau mr lcj 0fu+TALLY+aj+bs dn ct cat dy 0TALLY+aj+bs 9ay 88:0mm+lh+c+A 8B 8C 8D 8E 8F
    8G 8H 8I 8J 8K 8L 8M 8N 8O 8P 8Q 8R 8S 8T 8U 8V 8W 8X 8Y 8Z 6d+A 8B 8C 8D 8E 8F 8G 8H 8I 8J 8K
    8L 8M 8N 8O 8P 8Q 8R 8S 8T 8U 8V 8W 8X 8Y 8Z 3qd+c+A 8B 8C 8D 8E 8F 8G 8H 8I 8J 8K 8L 8M 8N 8O
    8P 8Q 8R 8S 8T 8U 8V 8W 8X 8Y 8Z 6d+A 8B 8C 8D 8E 8F 8G 2:8I 8J 8K 8L 8M 8N 8O 8P 8Q 8R 8S 8T 8U
    8V 8W 8X 8Y 8Z 3lh+qd+c+A bB bC bD bE bF bG bH bI bJ bK bL bM bN bO bP bQ bR bS bT bU bV bW bX
    bY bZ 9d+A bB bC bD bE bF bG bH bI bJ bK bL bM bN bO bP bQ bR bS bT bU bV bW bX bY bZ 3hn+c+A
    2:8C 8D 3:8G 3:8J 8K 3:8N 8O 8P 8Q 2:8S 8T 8U 8V 8W 8X 8Y 8Z 6d+A 8B 8C 8D 2:8F 2:8H 8I 8J 8K 8L
    8M 8N 2:8P 8Q 8R 8S 8T 8U 8V 8W 8X 8Y 8Z 3lh+hn+c+A bB bC bD bE bF bG bH bI bJ bK bL bM bN bO bP
    bQ bR bS bT bU bV bW bX bY bZ 9d+A bB bC bD bE bF bG bH bI bJ bK bL bM bN bO bP bQ bR bS bT bU
    bV bW bX bY bZ 3FRAKTUR+c+A dB 2:dD dE dF dG 3:dJ dK dL dM dN dO dP dQ 2:dS dT dU dV dW dX dY
    2:bd+A dB dC dD dE dF dG dH dI dJ dK dL dM dN dO dP dQ dR dS dT dU dV dW dX dY dZ 3gn+c+A 8B
    2:8D 8E 8F 8G 2:8I 8J 8K 8L 8M 2:8O 4:8S 8T 8U 8V 8W 8X 8Y 2:6d+A 8B 8C 8D 8E 8F 8G 8H 8I 8J 8K
    8L 8M 8N 8O 8P 8Q 8R 8S 8T 8U 8V 8W 8X 8Y 8Z 3lh+FRAKTUR+c+A gB gC gD gE gF gG gH gI gJ gK gL gM
    gN gO gP gQ gR gS gT gU gV gW gX gY gZ ed+A gB gC gD gE gF gG gH gI gJ gK gL gM gN gO gP gQ gR
    gS gT gU gV gW gX gY gZ 3dt+c+A 8B 8C 8D 8E 8F 8G 8H 8I 8J 8K 8L 8M 8N 8O 8P 8Q 8R 8S 8T 8U 8V
    8W 8X 8Y 8Z 6d+A 8B 8C 8D 8E 8F 8G 8H 8I 8J 8K 8L 8M 8N 8O 8P 8Q 8R 8S 8T 8U 8V 8W 8X 8Y 8Z
    6lh+c+A bB bC bD bE bF bG bH bI bJ bK bL bM bN bO bP bQ bR bS bT bU bV bW bX bY bZ 9d+A bB bC bD
    bE bF bG bH bI bJ bK bL bM bN bO bP bQ bR bS bT bU bV bW bX bY bZ 6qd+c+A bB bC bD bE bF bG bH
    bI bJ bK bL bM bN bO bP bQ bR bS bT bU bV bW bX bY bZ 9d+A bB bC bD bE bF bG bH bI bJ bK bL bM
    bN bO bP bQ bR bS bT bU bV bW bX bY bZ 6lh+qd+c+A eB eC eD eE eF eG eH eI eJ eK eL eM eN eO eP
    eQ eR eS eT eU eV eW eX eY eZ cd+A eB eC eD eE eF eG eH eI eJ eK eL eM eN eO eP eQ eR eS eT eU
    eV eW eX eY eZ 3MONOSPACE+c+A fB fC fD fE fF fG fH fI fJ fK fL fM fN fO fP fQ fR fS fT fU fV fW
    fX fY fZ dd+A fB fC fD fE fF fG fH fI fJ fK fL fM fN fO fP fQ fR fS fT fU fV fW fX fY fZ
    3qd+d+jy+I bJ 3:3lh+c+hi 8qs 8kg 8lg 8fw 8za 8ETA 8jn 8ks 8mh 8qi 8MU 8NU 8XI 8ib 8PI 8wj 8jn+w
    9b 8TAU 8fq 8yh 8zc 8PSI 8gm 6NABLA 6d+hi 8qs 8kg 8lg 8fw 8za 8ETA 8jn 8ks 8mh 8qi 8MU 8NU 8XI
    8ib 8PI 8wj 8n+jb 8jb 8TAU 8fq 8yh 8zc 8PSI 8gm 6wv+mk 6fw+w 6jn+w 6mh+w 6yh+w 6wj+w 6PI+w
    3qd+c+hi 8qs 8kg 8lg 8fw 8za 8ETA 8jn 8ks 8mh 8qi 8MU 8NU 8XI 8ib 8PI 8wj 8jn+w 9b 8TAU 8fq 8yh
    8zc 8PSI 8gm 6NABLA 6d+hi 8qs 8kg 8lg 8fw 8za 8ETA 8jn 8ks 8mh 8qi 8MU 8NU 8XI 8ib 8PI 8wj 8n+jb
    8jb 8TAU 8fq 8yh 8zc 8PSI 8gm 6wv+mk 6fw+w 6jn+w 6mh+w 6yh+w 6wj+w 6PI+w 3lh+qd+c+hi bqs bkg blg
    bfw bza bETA bjn bks bmh bqi bMU bNU bXI bib bPI bwj bjn+w cb bTAU bfq byh bzc bPSI bgm 9NABLA
    9d+hi bqs bkg blg bfw bza bETA bjn bks bmh bqi bMU bNU bXI bib bPI bwj bn+jb bjb bTAU bfq byh
    bzc bPSI bgm 9wv+mk 9fw+w 9jn+w 9mh+w 9yh+w 9wj+w 9PI+w 3dt+lh+c+hi bqs bkg blg bfw bza bETA bjn
    bks bmh bqi bMU bNU bXI bib bPI bwj bjn+w cb bTAU bfq byh bzc bPSI bgm 9NABLA 9d+hi bqs bkg blg
    bfw bza bETA bjn bks bmh bqi bMU bNU bXI bib bPI bwj bn+jb bjb bTAU bfq byh bzc bPSI bgm 9wv+mk
    9fw+w 9jn+w 9mh+w 9yh+w 9wj+w 9PI+w 9qd+c+hi eqs ekg elg efw eza eETA ejn eks emh eqi eMU eNU
    eXI eib ePI ewj ejn+w fb eTAU efq eyh ezc ePSI egm cNABLA cd+hi eqs ekg elg efw eza eETA ejn eks
    emh eqi eMU eNU eXI eib ePI ewj en+jb ejb eTAU efq eyh ezc ePSI egm cwv+mk cfw+w cjn+w cmh+w
    cyh+w cwj+w cPI+w 3lh+c+wo 6d+wo 3:6br+du 9bs an 9t 9at ay 9ev 9au ar 9cj 3gn+br+du 9bs an 9t
    9at ay 9ev 9au ar 9cj 3dt+br+du 9bs an 9t 9at ay 9ev 9au ar 9cj 6lh+br+du cbs dn ct cat dy cev
    cau dr ccj 3MONOSPACE+br+du gbs hn gt gat hy gev gau hr gcj 0SIGNWRITING+dl+bk cfc+bk ctk+bk
    cuo+bk cfm+bk chy+bk cdl+bk+le cfc+bk+le cdl+ct+yy+bk+le fbk+hf+KNUCKLE iCUPPED ikr k+hl
    cfc+bk+HINGE cdl+bk+ad cfc+bk+ad cdl+bk+ad+le lhf+KNUCKLES lkr iUP+ad+kr ikr+ad+UP iad+gd
    n+bk+le oad+le oCUPPED okr lko cfc+bk+ad+ko cdl+ad+le+cw+bk fbk+le+cw+ad iad+ct cfc+bk+ad+ct
    cdl+bk+ad+fi+ct+le lle+ct+fi lct+le lkr+nq+ct+mp iUP+ad+kr+ct+mp ugd ikr+ad+UP+ct+mp
    iad+UP+nq+ct+io lct+CUPPED ocl oHOOKED okr fct+il+bk+ad+fi fbk+ad+gd+ct+mp t+gd ule
    fad+ct+HOOKED+bk+UP fbk+ct+HOOKED+ad+UP iad+gd+kr+ct+mp lko+ct+mp lgd+ct+io oCUPPED+ct+io
    fad+ct+CUPPED+bk+UP fbk+ct+CUPPED+ad+UP fad+ct+cl+bk+UP rkr fbk+ct+ANGLED+OUT+ad+UP sIN+ad+UP
    lcl+ad+UP iad+ct+gd+kr oANGLED+OUT u fad+ct+ANGLED+OUT+bk+UP zko sbk+UP fbk+ct+HOOKED+ad+kr
    cHAND-FLAT+at+gh r+le skr sgd u+SPLIT hCLAW+at+gh+gd cdl+at+gh+gd+le cfm+at+gh+gd
    cHAND-FLAT+ay+gh+nq mHEEL+ay+gh+nq may+gh+nq+at+le mHEEL+ay+gh+nq+at+le may+gh+nq+le
    mHEEL+ay+gh+nq+le may+gh+nq+ct+io ctk+ay+gh+nq n+ed cfm+ay+gh+nq+ed cuo+ay+gh+nq
    cHAND-FLAT+ay+gh+nq+kr x+ct+mp yNO+ct l l+il+PALM+FACINGS mHEEL mct+mp mHEEL+ct+mp mct+le pio
    mSPLIT+bk+ct+mp scz u+ct+mp zp+le sdb hCLAW l+ct+mp mNO+ct mct+io cun+CURLICUE e ctk+ed e
    e+ed+ct+mp fct+mp fed+NO+ct fNO+ct fed+ct+io fct+io czi+ed e cfc cuo e+ct+mp fNO+ct fct+io
    cfm+ed h+ct+io e e+d fed+ct+mp fct+mp fed+NO+ct fNO+ct fct+mp+TOUCHING+bk iil+ad+dh chy
    cdl+bk+ad+dh cfc+bk+ad+dh dm+bk+ad+dh chy+bk+ad+dh cfm+db cdl+bk+ad+dh+le ogd cfm+bk+ad+dh+gd
    cdl+db+cb k+RIPPLE+fi sqa lOTHERS+cl iUP fct+yy+db+UP cfc+db+UP cuo+db+UP chy+db+UP
    cdl+db+hf+KNUCKLE ile iTOUCHES+ct ict cfm+db+ct cdl+db+bk+ct cfm+db+bk+ct chy+db+bk+ct+bk+ct+OUT
    t cdl+db+bk cfc+db+bk dm+db+bk chy+db+bk cdl+bk+ad+db cfc+bk+ad+db dm+bk+ad+db fdh chy+bk+ad+db
    cdl+bk+ad+fn+db cfc+bk+ad+fn+db cdl+dh+cb cfm+dh+cb+bk+ct+av+ad chy+dh+cb+ad+ct+bk+fn cdl+dh+UP
    ihf+KNUCKLE idb cfc+dh+db cuo+dh+db chy+dh+db cdl+dh+ad k+gd lhf+KNUCKLES ibk ict cun+dh+ct
    cdl+bk+dh+db cfc+bk+dh+db czi+bk+dh+db+ON cun+bk+dh+db+OUT oIN oyy ctk+bk+dh+db cfm+bk+dh+db
    chy+bk+dh+db+OUT n cdl+ad+cb cfm+ad cdl+ad+UP cfc+ad+UP cdl+ad+hf+KNUCKLE iUP+ct+mp cun+ad+ct
    cdl+ad+ct+db idb jh+db cfc+ad+dh+db czi+ad+dh+db+ON ctk+ad+dh+db cfm+ad+dh+db chy+ad+dh+db+OUT
    oIN n cfc+ad+dh+db+le cHAND-CLAW+ad+dh+db+gd x+mp cun+ad+dh+db+gd+OUT rIN q cfm+bk+kr
    cdl+bk+ct+mp cfm+bk+ct+mp cdl+bk+ct+mp+ct+cm rgd rle obk+le oBOTH+le obk+HINGE lio+bk+fi rle lav
    lCURLICUE lmf+ct+jh cHAND-CLAW+bk+ct+mf+ct+jh cdl+bk+ct+mf+ct+yy lao ctk+bk+ct k+ed cfm+bk+ct+ed
    ldc k k+d chy+bk+ct+OUT lIN k cdl+ct h+HEEL imp+cm lgd lle iio jl+bk+ad lad+dh ldh+db iyy+bn+gh
    icw+bn+gh iyy+t+gh lat+gh icw+at+hf+KNUCKLES e e+HEEL cTOUCH+ce iji iil cGRASP+ce iji iil
    cSTRIKE+ce jji jil cBRUSH+ce iji iil cRUB+ce gji gil cSURFACE+SYMBOLS kil dQUEEZE+dc+ce l+ce
    lc+ji l+ji kyn cFLICK+dc+ce j+ce jc+ji j+ji iyn cSQUEEZE+FLICK+er cMOVEMENT-HINGE+UP+cb+dc y uyn
    rcb+yn rUP+cb+er+dc z+d rmp+TO+mp+tz cds+um+wm dn+um+wm ds+ce+fi+d lbe ldc lqe iso+FLEX fl+fi
    hso+FLEX her j+so+FLEX ffn fdr+fi+pi iso+FLEX ier k+so+FLEX fBEND+d kbe kdc ffy+d ibe idc
    iROTATION fse+d ibe idc fwc+d ibe idc fvh+d ibe idc fPEAKS+d lbe ldc cTRAVEL-WALLPLANE+kf+ce wl
    wer tjs+ce wl wer tSHAKING tARM+SPIRAL+ce zIRAL+l zIRAL+dr cMOVEMENT-DIAGONAL+AWAY+d zbe zdc zqe
    uTOWARDS+d zDS+be zDS+dc zDS+qe uil+AWAY+d zAY+be zAY+dc zAY+qe xTOWARDS+d zWARDS+be zWARDS+dc
    zWARDS+qe cdn+ce+fi+d lbe ldc lqe iso+FLEX fl+fi hso+FLEX her j+so+FLEX ffn fdr+fi+pi iso+FLEX
    ier+pi lso+FLEX fBEND ffy+d ibe idc fse fwc+d ibe idc fvh+d ibe idc fPEAKS+d lbe ldc
    cTRAVEL-FLOORPLANE+js+ce xl xer ukf+ce xl xer uSHAKING cds+mf+ek+d lbe ldc lqe iHALF-CIRCLE+d
    ube udc uqe iTHREE-QUARTER+ao+d zbe fHUMP+d kbe kdc fsc+d ibe idc j+l fpv+mf+l+d nbe ndc ldr+d
    obe odc fmf+THEN+fi fqa+fn+d lbe ckf+ce fl fep cds+SHAKING fmf+ex+FRONT+WALL fHUMP+ex+FRONT+WALL
    fsc+ex+FRONT+WALL fpv+ex+FRONT+WALL ckf+ce+ex+FRONT+WALL fl+ex+FRONT+WALL fer+ex+FRONT+WALL
    cds+mf+ex+CHEST fHUMP+ex+CHEST fsc+ex+CHEST fpv+ex+CHEST ckf+ce+ex+CHEST fl+ex+CHEST
    fer+ex+CHEST cds+pv+cm+PATH+d qbe qdc dn+mf+ex+pz+d pc fHUMP+ex+pz+d+l rc+l r+dr rc+dr
    fsc+ex+pz+d+ce pc+ce p+l pc+l fpv+ex+pz+d pc cjs+ce+ex+pz fl+ex+pz fer+ex+pz cdn+mf+ex+vo+d pc
    fHUMP+ex+vo+d+l rc+l rr+d+dr uc+dr fsc+ex+vo+d+ce pc+ce p+l pc+l fpv+ex+vo+d pc cjs+ce+ex+vo
    fl+ex+vo fer+ex+vo cdn+mf+d ibe idc iqe iCOMBINED fHUMP+d fsc+d fpv+SNAKE id jc cjs+ce fl fer
    cdn+SHAKING+pn ds+ARM+ao+d+ce mbe+ce md+l mbe+l dn+ARM+ao+ex+WALL+d+ce ube+ce udc+ce v+l ube+l
    udc+l ds+so+ao+FRONT+ce rl dn+so+ao+ex+WALL+ce tl ds+um+kn+ce ll dn+um+kn+ex+WALL+ce tl
    cDYNAMIC+am+d oc kFAST kSLOW kTENSE kRELAXED kSIMULTANEOUS w+er kEVERY+OTHER+TIME kGRADUAL cqx
    e+RIM fds+fi iTILT gn+fi gs+mf gn+mf fpi+ao ccs+DIRECTION+POSITION+NOSE+io+TILTING zOSE+UP+OR+cb
    zOSE+UP+OR+cb+TILTING cEYEBROWS+fi+UP ogy ocb cDREAMY+EYEBROWS+gy+cb scb+gy sUP+gy sgy+UP
    cFOREHEAD+gy lwm lrn cqc+ed fSQUEEZED ffk cEYE+BLINK+ce mji cqc+cc+ed fWIDE+ed fcc+fk
    fWIDENING+pi cEYE+WINK fLASHES+UP mcb mFLUTTERING ctg+fi h+l ier cEYEGAZE-FLOORPLANE+fi x+l yer
    ctg+qa cEYEGAZE-FLOORPLANE+qa ctg+CIRCLING cCHEEKS+PUFFED jgy jSUCKED cTENSE+CHEEKS+ew pad phl
    cEARS cNOSE+gy hwm hWRINKLES iIGGLES cAIR+BLOWING+OUT gSUCKING+IN gBLOW+d+ROTATIONS
    gSUCK+d+ROTATIONS cBREATH+INHALE jEXHALE ckx+fk+gy iio iwm fSMILE k+rn led fFROWN k+rn led
    fed+ao iio irn iOVAL m+rn nYAWN ipo k+rn lYAWN fKISS j+io krn fTENSE k+io lSUCKED
    cLIPS+PRESSED+TOGETHER f+bt+cw+cr gcr+cw+bt ckx+wn fWRINKLES+ce ol cyu+STICKING+OUT+FAR
    fLICKING+LIPS fTIP+il+LIPS jTOUCHING+jh+kx fjh+kx+RELAXED fMOVES+AGAINST+CHEEK fcz+STICKING+OUT
    ijh+kx cTEETH h+pi iON+yu n+pi lLIPS p+pi iBITE+LIPS cds+JAW dn+JAW cNECK cHAIR cEXCITEMENT
    cSHOULDER+HIP+SPINE pPOSITIONS cWALLPLANE+SHOULDER+HIP+MOVE cFLOORPLANE+SHOULDER+HIP+MOVE
    cSHOULDER+TILTING+kp+WAIST cTORSO-WALLPLANE+fi+STRETCH sqa+BEND iFLOORPLANE+TWISTING
    ccr+BODY+TILTING+kp+HIP+JOINTS cLIMB+COMBINATION hLENGTH-1 o2 o3 o4 o5 o6 o7 cum
    cLOCATION-WALLPLANE+kk lFLOORPLANE+kk k+HEIGHT lWIDTH lDEPTH lqx+NECK lTORSO lLIMBS+DIGITS cdp
    chd+fb cix chs cbd 10:cwd+MODIFIER-2 o3 o4 o5 o6 2:cROTATION+MODIFIER-2 u3 u4 u5 u6 u7 u8 u9 u10
    v1 v2 v3 v4 v5 v6 451:0es+d+a+FENG+fo+b+TRILL 7aq+hn+G 3a+d+c+bh+G 3d+a+aq+K 3a+d+c+L+b+BELT
    3d+a+LEZH+b+bz+av 7bh+Y+b+BELT 7aq+ENG 7bh+R+b+eh+LEG+p+bz+av 7T+b+av+p+bz+av 3a+bz+te+b+bz+av
    3d+a+ESH+b+l+fa h+p+pa 7bh+T+b+pa 3a+ba+fp+fb+b+pa 5STRETCHED+C+b+pa 5d+c+bh+K 3d+a+L+b+qv
    7DEZH+fo+b+fh+av 7L+b+BELT+p+fh+av 7ENG+b+fh+av 7bh+R+b+fh+av 7R+b+qv+p+fh+av 7TESH+fo+b+fh+av
    7EZH+b+fh+av 7DEZH+fo+b+bz+av 7I+b+u+p+bz+av 7O+b+bz+av 7TESH+fo+b+bz+av 7C+b+bz+av 7S+b+pa
    e2:0ck+GLAGOLITIC+a+AZU gBUKY gVEDE gGLAGOLI gDOBRO gYESTU gZHIVETE 2:hEMLJA gIZHE gs+IZHE gI
    gDJERVI gKAKO gLJUDIJE gMYSLITE gNASHI gONU gPOKOJI gRITSI gSLOVO gTVRIDO gUKU gFRITU gHERU
    3:gSHTA gTSI gCHRIVI gjd gYERU jI hATI 2:hU gd+vf 2:gYO gws+d+vf gBIG+vf gws+BIG+vf gFITA
    d6:0NYIAKENG+PUACHUE+HMONG+a+MA puk pNTA pTA pHA pNA pXA pNKA pCA pLA pSA pZA pNCA qTSA pKA pDA
    pjz pNRA pVA pNTXA pTXA pFA pRA pQA pYA pNQA pPA pXYA pNPA pDLA pNPLA pht pMLA pPLA pGA pRRA pA
    qA pI pU pO qO pE qE pW 4:nTONE-B sM sJ sV sS sG sD ng+qm+kz sTHING sLOCATION sANIMAL
    sINVERTEBRATE pXW+XW nhv+xz 3:nbr+du qbs rn qt qat ry qev qau rr qcj 5:nya+NYAJ ncl+CA
    141:0TOTO+a+PA 7BA 7TA 7DA 7KA 7GA 7MA 7NA 7jc 7SA 7ju 7YA 7WA 7JA 7HA 7RA 7LA 7I 7BREATHY+I 7IU
    7BREATHY+IU 7U 7E 7BREATHY+E 7EO 7BREATHY+EO 7O 7AE 7BREATHY+AE 7A 5g+nm+el 12:0WANCHO+a+AA a
    9BA 9CA 9DA 9GA 9YA 9lv 9LA 9NA 9PA 9TA 9lc 9FA 9SA 9jd 9JA 9ZA 9WA 9VA 9KA 9O 9AU 9RA 9MA 9ke
    9HA 9E 9I 9jc 9U 9LLHA 9uk 9TRA 9ONG 9AANG aNG 9ING 9ON 9EN 9AAN 9jz 9UEN 9YIH 7el+TUP dNI aKOI
    dNI 7br+du abs bn at aat by aev aau br acj 6:7NGUN+g 4e1:0ETHIOPIC+hv+HHYA fU fI fAA fEE g fO
    2:cGURAGE+HHWA cHHWI fEE g 2:cGURAGE+MWI lEE 2:jQWI lEE m jBWI lEE jKWI lEE m jGWI lEE m jFWI
    lEE jPWI lEE 2:0MENDE+KIKAKUI+hv+M001+KI k2+KA k3+KU j65+KEE j95+KE j76+KOO j48+KO i179+KUA
    i004+WI k5+WA k6+WU i126+WEE j18+WE k4+WOO i045+WO i194+WUI j43+WEI i061+WVI j49+WVA i139+WVE
    i007+MIN k8+MAN k9+MUN j59+MEN j94+MON i154+MUAN j89+MUEN i010+BI k1+BA k2+BU i150+BEE i097+BE
    i103+BOO j38+BO i013+I k4+A k5+U i163+EE j00+E j65+OO j47+O j37+EI k1+IN k5+IN j95+AN j78+EN
    i019+SI j20+SA k1+SU i162+SEE j16+SE j36+SOO i079+SO i196+SIA i025+LI k6+LA k7+LU j84+LEE j73+LE
    j54+LOO i153+LO j10+eh+LE i016+DI k7+DA k8+DU j89+DEE i180+DOO k1+DO i022+TI k3+TA k4+TU j91+TEE
    j55+TE i104+TOO i069+TO j28+JI k9+JA j30+JU i157+JEE j13+JE j60+JOO i063+JO i175+eh+JO i031+YI
    k2+YA k3+YU i109+YEE i080+YE i141+YOO j21+YO i034+FI k5+FA k6+FU j78+FEE k5+FE i133+FOO i088+FO
    i197+FUA j01+FAN i037+NIN k8+NAN k9+nv i117+NEN j69+NON j76+HI i041+HA i186+HU i040+HEE j96+HE
    j42+HOO i140+HO i083+HEEI i128+HOOU i053+HIN i130+HAN i087+HUN j52+HEN i193+HON i046+HUAN
    j90+NGGI j43+NGGA j82+NGGU i115+NGGEE j46+NGGE j56+NGGOO j20+NGGO j59+NGGAA j27+NGGUA
    i086+eh+NGGE i106+eh+NGGOO j83+eh+NGGO j55+GI j11+GA j68+GU j90+GEE j66+GUEI k7+GUAN j84+NGEN
    i057+NGON i177+NGUAN i068+PI j99+PA j50+PU j81+PEE j51+PE i102+POO i066+PO i145+MBI i062+MBA
    i122+MBU i047+MBEE i188+MBEE i072+MBE i172+MBOO k4+MBO j87+MBUU j61+eh+MBE j05+eh+MBOO
    j42+eh+MBO j32+KPI i092+KPA j74+KPU j44+KPEE i108+KPE j12+KPOO j58+KPO j24+GBI i056+GBA i148+GBU
    i093+GBEE i107+GBE i071+GBOO k0+GBO i171+RA j23+NDI k9+NDA k5+NDU j91+NDEE j19+NDE i067+NDOO
    k4+NDO i152+NJA j92+NJU j49+NJEE j34+NJOO j82+VI k5+VA j51+VU j73+VEE i085+VE i144+VOO i077+VO
    i164+NYIN i058+NYAN i170+NYUN i098+NYEN j60+NYON 3:ebr+bs in ht hat iy hev hau ir hcj
    eck+cq+TEENS mNS kHUNDREDS kmz kik+mz kab+mz kre 2a:0ADLAM+c+a+ALIF aDAALI aLAAM aMIIM aBA
    aSINNYIIYHE aPE aBHE aRA aE aFA aI aO ant aYHE aqo anv auj aYA aU aJIIM azc aHA aQAAF aGA ajz
    aTU aNHA aVA ake aGBE aZAL aKPO ajd 6d+a+ALIF aDAALI aLAAM aMIIM aBA aSINNYIIYHE aPE aBHE aRA aE
    aFA aI aO ant aYHE aqo anv auj aYA aU aJIIM azc aHA aQAAF aGA ajz aTU aNHA aVA ake aGBE aZAL
    aKPO ajd 6ALIF+xz 6bm+xz 6su+aj 6gx 6eq+dx 6GEMINATE+eq+dx 6jj 6NASALIZATION+aj 5:6br+du 9bs an
    9t 9at ay 9ev 9au ar 9cj 5:6s+cy+aj 8eb+aj 312:0INDIC+SIYAQ+cq+bs gn ft fat gy fev fau gr fcj
    fik fem fih fmg fhk fno fef fll fez fbs+ab gn+ab ft+ab fat+ab gy+ab fev+ab fau+ab gr+ab fcj+ab
    fbs+ac gn+ac ft+ac fat+ac gy+ac fev+ac fau+ac gr+ac fcj+ac fik+ac fem+ac fih+ac fmg+ac fhk+ac
    fno+ac fef+ac fll+ac fez+ac fLAKH jAN cLAKH+aj ccq+KAROR kAN fPREFIXED+bs pn ot oat py oev oau
    pr ocj cPLACEHOLDER cgq+bs+ek icc ft+ig cRUPEE+aj ccq+ep+bs jn iik+ac cep+LAKH+aj
    4d:0OTTOMAN+SIYAQ+cq+bs in ht hat iy hev hau ir hcj hik hem hih hmg hhk hno hef hll hez hbs+ab
    in+ab ht+ab hat+ab iy+ab hev+ab hau+ab ir+ab hcj+ab hbs+ac in+ac ht+ac hat+ac iy+ac hev+ac
    hau+ac ir+ac hcj+ac hik+ac hem+ac hih+ac hmg+ac hhk+ac hno+ac hef+ac hll+ac hez+ac eMARRATAN
    eep+cq+bn kt kat ly kev kau lr kcj kik kat+ab kev+ab kbn+ac kik+ac egq+bs+cc kSIXTH c3:0jf+mm+da
    6BEH 6eg 6DAL 2:6qo 6vg 6ht 6vz 6gf 6uj 6rc 6bu 6iz 6mc 6sp 6zg 7s 6ww 6tw 6lw 6TEH 6zt 6gv
    6THAL 6DAD 6ZAH 6nj 6jy+BEH 9iz 9zg 9ww 2:6s+BEH 8eg 2:8up 3:8ht 2:8gf 8uj 8rc 8bu 8iz 8mc 8sp
    8zg 9s 8ww 2:8lw 8TEH 8zt 8gv 2:8DAD 2:8nj 7:6TAILED+eg 5:dht 2:dgf 2:drc 2:diz dmc dsp 2:dzs
    dww 2:dlw 3:dgv 2:dDAD 2:dnj 2:djy+iz 2:gww 2:6STRETCHED+BEH geg 2:gup 3:ght gvz ggf guj 2:gbu
    giz gmc gsp gzg hs gww 2:glw gTEH gzt ggv 2:gDAD gZAH gnj gjy+BEH 2:jzg 2:6LOOPED+da dBEH deg
    dDAL dup dqo dvg dht dvz dgf 2:drc dbu diz dmc dsp dzg es dww dtw dlw dTEH dzt dgv dTHAL dDAD
    dZAH dnj 6:6gn+BEH 9eg 9DAL 2:9qo 9vg 9ht 9vz 9gf 2:9rc 9bu 9iz 9mc 9sp 9zg as 9ww 9tw 9lw 9TEH
    9zt 9gv 9THAL 9DAD 9ZAH 9nj 35:6co+bu+b+ht+b+TATWEEL 9ht+b+DAL 10f:0MAHJONG+TILE+fz+WIND ev+WIND
    dgw+WIND dfe+WIND dRED+ul dGREEN+ul dz+ul dbs+OF+kc en+OF+kc dt+OF+kc dat+OF+kc ey+OF+kc
    dev+OF+kc dau+OF+kc er+OF+kc dcj+OF+kc dbs+OF+px en+OF+px dt+OF+px dat+OF+px ey+OF+px dev+OF+px
    dau+OF+px er+OF+px dcj+OF+px dbs+OF+kn en+OF+kn dt+OF+kn dat+OF+kn ey+OF+kn dev+OF+kn dau+OF+kn
    er+OF+kn dcj+OF+kn dPLUM dORCHID dBAMBOO dCHRYSANTHEMUM dSPRING eUMMER dAUTUMN dWINTER dJOKER
    dze 5:0DOMINO+TILE+y+ze cHORIZONTAL-00-00 r1 r2 r3 r4 r5 r6 o1-00 r1 r2 r3 r4 r5 r6 o2-00 r1 r2
    r3 r4 r5 r6 o3-00 r1 r2 r3 r4 r5 r6 o4-00 r1 r2 r3 r4 r5 r6 o5-00 r1 r2 r3 r4 r5 r6 o6-00 r1 r2
    r3 r4 r5 r6 cr+ze cVERTICAL-00-00 p1 p2 p3 p4 p5 p6 m1-00 p1 p2 p3 p4 p5 p6 m2-00 p1 p2 p3 p4 p5
    p6 m3-00 p1 p2 p3 p4 p5 p6 m4-00 p1 p2 p3 p4 p5 p6 m5-00 p1 p2 p3 p4 p5 p6 m6-00 p1 p2 p3 p4 p5
    p6 d:0PLAYING+CARD+ze dACE+OF+md dbn+OF+md dt+OF+md dat+OF+md ey+OF+md dev+OF+md dau+OF+md
    er+OF+md dcj+OF+md dik+OF+md dJACK+OF+md dgs+OF+md dod+OF+md dsb+OF+md 3:dACE+OF+kd dbn+OF+kd
    dt+OF+kd dat+OF+kd ey+OF+kd dev+OF+kd dau+OF+kd er+OF+kd dcj+OF+kd dik+OF+kd dJACK+OF+kd
    dgs+OF+kd dod+OF+kd dsb+OF+kd dRED+JOKER 2:dACE+OF+iv dbn+OF+iv dt+OF+iv dat+OF+iv ey+OF+iv
    dev+OF+iv dau+OF+iv er+OF+iv dcj+OF+iv dik+OF+iv dJACK+OF+iv dgs+OF+iv dod+OF+iv dsb+OF+iv
    dx+JOKER 2:dACE+OF+qg dbn+OF+qg dt+OF+qg dat+OF+qg ey+OF+qg dev+OF+qg dau+OF+qg er+OF+qg
    dcj+OF+qg dik+OF+qg dJACK+OF+qg dgs+OF+qg dod+OF+qg dsb+OF+qg dz+JOKER dFOOL dTRUMP-1 j2 j3 j4
    j5 j6 j7 j8 j9 j10 k1 k2 k3 k4 k5 k6 k7 k8 k9 j20 k1 b:0br+du+hd+fb 6dp 3bs+dp 4n+dp 3t+dp
    3at+dp 4y+dp 3ev+dp 3au+dp 4r+dp 3cj+dp 0DINGBAT+cl+dt+br+du 8ie+cl+dt+br+du 0cl+du+b+oh 4m+f
    3xj+g+b+OVERLAID+oy 0si+es+c+a+A aB aC aD aE aF aG aH aI aJ aK aL aM aN aO aP aQ aR aS aT aU aV
    aW aX aY aZ 0he+jr+BRACKETED+es+c+a+S 0cl+qd+es+c+a+C dR 3CD 3WZ 0COPYLEFT+w 0ea+es+c+a+A aB aC
    aD aE aF aG aH aI aJ aK aL aM aN aO aP aQ aR aS aT aU aV aW aX aY aZ 3HV 3MV 3SD 4S 3PPV 3WC
    0ie+cl+es+c+a+A dB dC dD dE dF dG dH dI dJ dK dL dM dN dO dP dQ dR dS dT dU dV dW dX dY dZ
    0hf+MC+g 4D+g 4R+g 0cl+CC 4+b+OVERLAID+oy 3HUMAN+FIGURE 0ie+ea+es+c+a+A dB dC dD dE dF dG dH dI
    dJ dK dL dM dN dO dP dQ dR dS dT dU dV dW dX dY dZ 0ko+ie+ea+es+c+a+P 0ie+ea+IC 6PA 6SA 6AB 6WC
    0an+DJ 0ea+CL 4OOL 3FREE 3ID 3NEW 4G 3OK 3SOS 3UP+b+cy+aj 3VS 3t+D 3ym+SCREEN 3bn+K 3at+K 4r+K
    4y+ri+bs 4u+ri+bs 3TWENTY-TWO+ri+bn 3no+P 3bs+ab+em+P 3es+d+a+D 3HC 4DR 4I-RES 3LOSSLESS 3SHV
    3UHD 3VOD 0MASK+WORK+w 39:0REGIONAL+mw+w+a+A gB gC gD gE gF gG gH gI gJ gK gL gM gN gO gP gQ gR
    gS gT gU gV gW gX gY gZ 0an+tl+HOKA 0ea+kt+KOKO 6SA e:3CJK+UNIFIED+IDEOGRAPH-624B p5B57 q3CC
    3kt+DE 3CJK+UNIFIED+IDEOGRAPH-4E8C p591A p89E3 p5929 p4EA4 p6620 p7121 p6599 p524D qF8C q18D
    p65B0 p521D p7D42 q51F p8CA9 p58F0 q439 p6F14 q295 q355 p4E00 s9 p904A p5DE6 p4E2D p53F3 p6307
    p8D70 p6253 p7981 qA7A p5408 p6E80 q709 s8 p7533 p5272 q5B6 p914D
    5:0he+jr+BRACKETED+CJK+UNIFIED+IDEOGRAPH-672C zPH-4E09 zPH-4E8C zPH-5B89 zPH-70B9 zPH-6253
    zPH-76D7 zPH-52DD zPH-6557 8:0cl+IDEOGRAPH+ADVANTAGE eCCEPT f:0oe+w+qm+FU 8LU 8SHOU 8XI
    8SHUANGXI 8CAI 9b:0CYCLONE 0FOGGY 0fk+yx 0NIGHT+b+STARS 0SUNRISE+cw+MOUNTAINS 7
    0CITYSCAPE+AT+DUSK 0SUNSET+cw+BUILDINGS 0RAINBOW 0BRIDGE+AT+NIGHT 0rm+pv 0VOLCANO 0MILKY+WAY
    0qh+GLOBE+EUROPE-AFRICA 9AMERICAS aSIA-AUSTRALIA 0GLOBE+b+MERIDIANS 0NEW+mn+w 0WAXING+tf+mn+w
    0xl+ek+mn+w 0WAXING+GIBBOUS+mn+w 0hd+mn+w 0WANING+GIBBOUS+mn+w 0LAST+ek+mn+w 0WANING+tf+mn+w
    0tf+mn 0NEW+mn+b+cs 0xl+ek+mn+b+cs 0LAST+ek+mn+b+cs 0hd+mn+b+cs 0SUN+b+cs 0GLOWING+gg
    0SHOOTING+gg 0THERMOMETER 0x+DROPLET 0z+SUN 5+b+d+CLOUD 6BEHIND+CLOUD i+b+RAIN 0CLOUD+b+RAIN
    8SNOW 8LIGHTNING 8TORNADO 0FOG 0WIND+BLOWING+cs 0HOT+DOG 0TACO 0BURRITO 0CHESTNUT 0SEEDLING
    0EVERGREEN+TREE 0DECIDUOUS+TREE 0PALM+TREE 0CACTUS 0HOT+PEPPER 0TULIP 0CHERRY+BLOSSOM 0ROSE
    0HIBISCUS 0SUNFLOWER 0BLOSSOM 0EAR+OF+MAIZE 7RICE 0HERB 0at+pg+CLOVER 0MAPLE+pg 0FALLEN+pg
    0pg+FLUTTERING+IN+WIND 0MUSHROOM 0TOMATO 0AUBERGINE 0GRAPES 0MELON 0WATERMELON 0TANGERINE 0LEMON
    0BANANA 0PINEAPPLE 0RED+APPLE 0GREEN+APPLE 0PEAR 3CH 0CHERRIES 0STRAWBERRY 0HAMBURGER
    0SLICE+OF+PIZZA 0MEAT+ON+BONE 0POULTRY+LEG 0RICE+CRACKER 5zf 0COOKED+RICE 1URRY+p+RICE
    0STEAMING+BOWL 1PAGHETTI 0BREAD 0FRENCH+FRIES 0ROASTED+SWEET+POTATO 0DANGO 0ODEN 0SUSHI
    0FRIED+SHRIMP 1ISH+CAKE+b+SWIRL+DESIGN 0wk+ICE+CREAM 0SHAVED+ICE 0ICE+CREAM 0DOUGHNUT 0COOKIE
    1HOCOLATE+fa 1ANDY 0LOLLIPOP 0CUSTARD 0HONEY+POT 0SHORTCAKE 0BENTO+wc 0POT+OF+FOOD 0COOKING
    0FORK+p+KNIFE 0TEACUP+WITHOUT+HANDLE 0SAKE+BOTTLE+p+CUP 0WINE+GLASS 0COCKTAIL+GLASS
    0TROPICAL+DRINK 0BEER+MUG 0CLINKING+BEER+MUGS 0BABY+BOTTLE 0FORK+p+KNIFE+b+PLATE
    0BOTTLE+b+POPPING+CORK 0POPCORN 0RIBBON 0WRAPPED+PRESENT 0BIRTHDAY+CAKE 0JACK-O-LANTERN
    0CHRISTMAS+TREE 0FATHER+CHRISTMAS 1IREWORKS 8+SPARKLER 0BALLOON 0PARTY+POPPER 0CONFETTI+zf
    0TANABATA+TREE 0ko+FLAGS 0PINE+DECORATION 0ra+DOLLS 0CARP+STREAMER 0WIND+CHIME
    0mn+VIEWING+CEREMONY 0SCHOOL+SATCHEL 0GRADUATION+CAP 0id+b+TIP+ON+qn+o 0BOUQUET+OF+FLOWERS
    0MILITARY+MEDAL 0REMINDER+RIBBON 0ls+xy+b+JACKS 0STUDIO+MICROPHONE 0LEVEL+SLIDER 0CONTROL+KNOBS
    0BEAMED+ASCENDING+ls+NOTES 7DESCENDING+ls+NOTES 0FILM+FRAMES 0ADMISSION+TICKETS 0CAROUSEL+xr
    0FERRIS+WHEEL 0ROLLER+COASTER 0FISHING+POLE+p+FISH 0MICROPHONE 1OVIE+CAMERA 0CINEMA 0HEADPHONE
    0ARTIST+PALETTE 0pw+HAT 0CIRCUS+TENT 0TICKET 0CLAPPER+BOARD 0PERFORMING+ARTS 0VIDEO+GAME
    0DIRECT+HIT 0SLOT+MACHINE 0BILLIARDS 0GAME+DIE 0BOWLING 0FLOWER+PLAYING+CARDS 0ls+ql
    0ji+ls+NOTES 0SAXOPHONE 0GUITAR 0ls+xy 0TRUMPET 0VIOLIN 0ls+SCORE 0RUNNING+SHIRT+b+SASH
    0TENNIS+RACQUET+p+zf 0SKI+p+SKI+BOOT 0BASKETBALL+p+HOOP 0CHEQUERED+zh 0SNOWBOARDER 0RUNNER
    0SURFER 1PORTS+MEDAL 0TROPHY 0xr+RACING 0AMERICAN+FOOTBALL 0RUGBY+FOOTBALL 0SWIMMER
    0WEIGHT+LIFTER 0GOLFER 0RACING+MOTORCYCLE 7CAR 0CRICKET+BAT+p+zf 0VOLLEYBALL
    0FIELD+HOCKEY+STICK+p+zf 0ICE+HOCKEY+STICK+p+PUCK 0TABLE+TENNIS+PADDLE+p+zf 0SNOW+CAPPED+ph
    0CAMPING 0BEACH+b+yx 0xe+CONSTRUCTION 0HOUSE+BUILDINGS 0CITYSCAPE 0DERELICT+HOUSE+xe
    0CLASSICAL+xe 0DESERT 6+ISLAND 0NATIONAL+PARK 0STADIUM 0HOUSE+xe 6b+GARDEN 0OFFICE+xe
    0ra+POST+OFFICE 0EUROPEAN+POST+OFFICE 0HOSPITAL 0BANK 0AUTOMATED+TELLER+MACHINE 0HOTEL
    0LOVE+HOTEL 0CONVENIENCE+STORE 0SCHOOL 0DEPARTMENT+STORE 0FACTORY 0IZAKAYA+LANTERN 0ra+CASTLE
    0EUROPEAN+CASTLE 0z+PENNANT 0x+PENNANT 0WAVING+z+zh 7x+zh 0ROSETTE 0x+ROSETTE 0LABEL
    0BADMINTON+RACQUET+p+SHUTTLECOCK 1OW+p+f 0AMPHORA 0EMOJI+dx+FITZPATRICK+TYPE-1-2 q3 q4 q5 q6
    0RAT 0MOUSE 0OX 0rm+BUFFALO 0COW 0TIGER 0LEOPARD 0RABBIT 0CAT 0ul 0CROCODILE 0WHALE 0SNAIL 3KE
    0xr 0RAM 0GOAT 0SHEEP 0MONKEY 0ROOSTER 0CHICKEN 0DOG 0PIG 0BOAR 0ELEPHANT 0OCTOPUS 0SPIRAL+jr
    0BUG 0ANT 0HONEYBEE 0LADY+BEETLE 0FISH 0TROPICAL+FISH 0BLOWFISH 0TURTLE 0HATCHING+CHICK
    0BABY+CHICK 0FRONT-FACING+BABY+CHICK 0BIRD 0PENGUIN 0KOALA 0POODLE 0DROMEDARY+CAMEL
    0BACTRIAN+CAMEL 0DOLPHIN 0MOUSE+cs 0COW+cs 0TIGER+cs 0RABBIT+cs 0CAT+cs 0ul+cs 0SPOUTING+WHALE
    0xr+cs 0MONKEY+cs 0DOG+cs 0PIG+cs 0FROG+cs 0HAMSTER+cs 0WOLF+cs 0BEAR+cs 0PANDA+cs 1IG+NOSE
    1AW+PRINTS 0CHIPMUNK 0qc 0EYE 1AR 0NOSE 0kx 0yu 0z+UP+bb+ox+bk 2cb+bb+ox+bk 2o+bb+ox+bk
    2h+bb+ox+bk 0FISTED+kq+g 0WAVING+kq+g 0OK+kq+g 0THUMBS+UP+g 7cb+g 0CLAPPING+xq+g 0ed+xq+g 0CROWN
    0WOMANS+HAT 0EYEGLASSES 0NECKTIE 0T-SHIRT 0JEANS 0DRESS 0KIMONO 0BIKINI 0WOMANS+CLOTHES 0PURSE
    0HANDBAG 0POUCH 0MANS+SHOE 0ATHLETIC+SHOE 0HIGH-HEELED+SHOE 0WOMANS+SANDAL 7BOOTS 0FOOTPRINTS
    0BUST+IN+yo 4S+IN+yo 1OY 0GIRL 0MAN 0WOMAN 0FAMILY 0MAN+p+WOMAN+wq+xq 0bn+MEN+wq+xq 3WOMEN+wq+xq
    0POLICE+OFFICER 0WOMAN+b+BUNNY+EARS 0BRIDE+b+VEIL 0kz+b+BLOND+HAIR 0MAN+b+GUA+PI+MAO 6TURBAN
    0OLDER+MAN 6WOMAN 0BABY 0CONSTRUCTION+WORKER 0PRINCESS 0ra+OGRE 3GOBLIN 0GHOST 0BABY+ANGEL
    0EXTRATERRESTRIAL+ALIEN 0ALIEN+MONSTER 0IMP 0SKULL 0INFORMATION+DESK+kz 0GUARDSMAN 0DANCER
    0LIPSTICK 0NAIL+POLISH 0cs+MASSAGE 0HAIRCUT 0BARBER+POLE 0SYRINGE 0PILL 0KISS+aj 0LOVE+a 0dh
    0GEM+STONE 0KISS 0BOUQUET 0COUPLE+b+id 0WEDDING 0BEATING+id 1ROKEN+id 0bn+kd 0SPARKLING+id
    0GROWING+id 0id+b+f 0BLUE+id 0GREEN+id 0YELLOW+id 0PURPLE+id 0id+b+RIBBON 0REVOLVING+kd
    0id+DECORATION 0di+SHAPE+b+A+bw+jh 0ELECTRIC+bl+BULB 0ANGER+w 0BOMB 0SLEEPING+w 0COLLISION+w
    0SPLASHING+SWEAT+w 0DROPLET 0in+w 0PILE+OF+POO 0FLEXED+BICEPS 0DIZZY+w 0yr+BALLOON
    0THOUGHT+BALLOON 0z+FLOWER 0ab+POINTS+w 0MONEY+BAG 0xh+EXCHANGE 0al+xj+g 0CREDIT+CARD
    0BANKNOTE+b+YEN+g bxj+g bEURO+g bPOUND+g 0MONEY+b+WINGS 0CHART+b+ap+TREND+p+YEN+g 0SEAT
    0PERSONAL+COMPUTER 0BRIEFCASE 0MINIDISC 0FLOPPY+DISK 0OPTICAL+DISC 0DVD 0FILE+xn 0ed+FILE+xn
    0PAGE+b+pa 5FACING+UP 0CALENDAR 0TEAR-OFF+CALENDAR 0CARD+bk 1HART+b+ap+TREND 9a+TREND 0fa+CHART
    0CLIPBOARD 0PUSHPIN 0sl+PUSHPIN 0PAPERCLIP 0fi+RULER 0ec+RULER 0BOOKMARK+TABS 0LEDGER 0NOTEBOOK
    8+b+DECORATIVE+COVER 0fk+BOOK 0ed+BOOK 0GREEN+BOOK 0BLUE+BOOK 0ORANGE+BOOK 0BOOKS 0NAME+BADGE
    0SCROLL 0MEMO 0iy+RECEIVER 0PAGER 0FAX+MACHINE 0SATELLITE+ANTENNA 0PUBLIC+ADDRESS+LOUDSPEAKER
    0CHEERING+MEGAPHONE 0OUTBOX+TRAY 0INBOX+TRAY 0PACKAGE 0E-MAIL+w 0INCOMING+ni 0ni+b+aa+f+i
    0fk+MAILBOX+b+LOWERED+zh dhf+zh 0ed+MAILBOX+b+hf+zh dLOWERED+zh 0POSTBOX 4AL+jv 0NEWSPAPER
    0MOBILE+PHONE c+b+k+f+AT+o 0VIBRATION+MODE 0MOBILE+PHONE+OFF 0NO+MOBILE+PHONES 0ANTENNA+b+BARS
    0CAMERA 6+b+FLASH 0VIDEO+CAMERA 0TELEVISION 0RADIO 0VIDEOCASSETTE 0FILM+PROJECTOR
    0PORTABLE+STEREO 1RAYER+BEADS 0TWISTED+k+km 0ic+k+p+q+ed+ao+km h+b+cl+bs+go 3aa+p+ap+ed+ao+km
    0dm+aa+p+ap+ed+ao+km 0hl+BRIGHTNESS+w 0ew+BRIGHTNESS+w 0SPEAKER+b+td+u 7 7+b+bs+np+pv
    at+np+WAVES 0BATTERY 0ELECTRIC+PLUG 0dd+MAGNIFYING+GLASS 0cd+MAGNIFYING+GLASS 0LOCK+b+INK+PEN
    0fk+LOCK+b+KEY 0KEY 0LOCK 0ed+LOCK 0BELL 4+b+td+u 1OOKMARK 0LINK+w 0RADIO+BUTTON 0ze+b+q+f+i
    0ui+b+q+f+i 0ON+b+cy+aj+b+o+h+f+i 0SOON+b+k+f+i 0pw+b+ap+f+i 0NO+bs+yy+nh+w 0KEYCAP+ik
    0INPUT+w+qm+es+c+LETTERS ed+LETTERS bNUMBERS bSYMBOLS bes+LETTERS 0FIRE 0ELECTRIC+TORCH 0WRENCH
    0HAMMER 0NUT+p+BOLT 0HOCHO 0PISTOL 0MICROSCOPE 0TELESCOPE 0CRYSTAL+zf 0ev+dz+gg+b+ad+bw
    0ra+w+qm+BEGINNER 0TRIDENT+EMBLEM 0x+an+BUTTON 0z+an+BUTTON 0dc+RED+ao 3BLUE+ao 3ORANGE+di
    3BLUE+di 1+ORANGE+di 2BLUE+di 0ge+RED+ah 1b+RED+ah 1e+d+RED+ah 1b+d+RED+ah 0bt+h+jl+z+ao
    0cr+h+jl+z+ao 1l+fn+POMMEE 0fn+POMMEE+b+HALF-CIRCLE+m 9 0qf+o+sy+b+t+cu 3h+sy+b+t+cu
    0w+qm+MARKS+CHAPTER 0z+es+fn 0al+es+fn 0CELTIC+fn 0OM+w 0DOVE+OF+PEACE 0KAABA 0MOSQUE 0SYNAGOGUE
    0MENORAH+b+cj+BRANCHES 0BOWL+OF+HYGIEIA 0CLOCK+cs+bs+ot an+ot 9t+ot 9at+ot ay+ot 9ev+ot 9au+ot
    ar+ot 9cj+ot 9ik+ot 9oo+ot 9me+ot 9ONE-THIRTY 9TWO-THIRTY aHREE-THIRTY 9FOUR-THIRTY aIVE-THIRTY
    9SIX-THIRTY aEVEN-THIRTY 9EIGHT-THIRTY 9NINE-THIRTY 9TEN-THIRTY 9ELEVEN-THIRTY 9TWELVE-THIRTY
    0h+SPEAKER 9+b+bs+np+pv ct+np+WAVES 0BULLHORN 8+b+np+WAVES 0RINGING+BELL 0BOOK 0CANDLE
    0MANTELPIECE+CLOCK 0x+SKULL+p+CROSSBONES 0NO+PIRACY 0HOLE 0MAN+IN+BUSINESS+SUIT+LEVITATING
    0SLEUTH+OR+SPY 0DARK+SUNGLASSES 0SPIDER 6+WEB 0JOYSTICK 0MAN+DANCING 0o+kq+iy+RECEIVER
    0iy+RECEIVER+b+PAGE 0h+kq+iy+RECEIVER 0z+TOUCHTONE+iy 0x+TOUCHTONE+iy 0iy+ON+pw+OF+MODEM
    0CLAMSHELL+MOBILE+PHONE 0ze+OF+ni 0STAMPED+ni 0ni+b+LIGHTNING 0FLYING+ni 0PEN+cw+STAMPED+ni
    0LINKED+PAPERCLIPS 0x+PUSHPIN 0bt+o+PENCIL 5BALLPOINT+PEN 5FOUNTAIN+PEN 5PAINTBRUSH 5CRAYON
    0o+WRITING+kq 0bh+OK+kq+g 0hf+kq+b+gh+SPLAYED 0aq+hf+kq+b+gh+SPLAYED 3THUMBS+UP+g acb+g
    3VICTORY+kq 3kq+b+ad+um+pe 0hf+kq+b+PART+il+ad+p+dh+gh 0z+cb+bb+o+kq+bk 0nn+z+o+bb+bk 5h+bb+bk
    3x+o+bb+bk 5h+bb+bk 0x+o+bb+ox+bk 2h+bb+ox+bk 0nn+z+UP+bb+bk 5cb+bb+bk 3x+UP+bb+bk 5cb+bb+bk
    0x+UP+bb+ox+bk 2cb+bb+ox+bk 2id 0DESKTOP+COMPUTER 0xy+p+MOUSE 0t+NETWORKED+COMPUTERS 0PRINTER
    1OCKET+CALCULATOR 0x+HARD+jr+FLOPPY+DISK 0z+HARD+jr+FLOPPY+DISK 0wk+jr+FLOPPY+DISK
    0TAPE+CARTRIDGE 0WIRED+xy 0bs+BUTTON+MOUSE 1n+BUTTON+MOUSE 0t+BUTTON+MOUSE 0TRACKBALL
    0ma+PERSONAL+COMPUTER 0HARD+DISK 0SCREEN 0PRINTER+ICON 0FAX+ICON 0OPTICAL+DISC+ICON
    0DOCUMENT+b+TEXT f+p+PICTURE bPICTURE 0FRAME+b+PICTURE 8TILES 8AN+X 0x+xn 1n 0ed+xn
    0CARD+bk+DIVIDERS 5FILE+wc 0FILE+CABINET 0EMPTY+ql 8+PAGE bD 0ql 2+PAGE 5D 0EMPTY+DOCUMENT 6PAGE
    aS 0DOCUMENT 0PAGE 4S 0WASTEBASKET 0SPIRAL+ql+PAD 7CALENDAR+PAD 0DESKTOP+WINDOW 0MINIMIZE
    1AXIMIZE 0OVERLAP 0ic+h+p+o+sy+km 0td+X 0INCREASE+FONT+SIZE+w 0DECREASE+FONT+SIZE+w 0COMPRESSION
    0ma+KEY 0ROLLED-UP+NEWSPAPER 0PAGE+b+cl+TEXT 0STOCK+CHART 0DAGGER+KNIFE 0LIPS 0SPEAKING+qx+IN+yo
    0t+RAYS+i 7m 7o 7h 0o+yr+sr 0h+yr+sr 0bn+yr+BUBBLES 0t+yr+BUBBLES 0o+THOUGHT+sr 0h+THOUGHT+sr
    0o+ANGER+sr 0h+ANGER+sr 0MOOD+sr 0LIGHTNING+MOOD+sr e 0xd+wc+b+xd 3hn+X 3wc+b+hn+X 3lh+hn+X
    3wc+b+lh+hn+X 0bl+se+aj 0xd+wc+b+lh+se 0WORLD+MAP 0MOUNT+FUJI 0TOKYO+TOWER 0STATUE+OF+LIBERTY
    0yo+OF+JAPAN 0MOYAI 0GRINNING+cs b+b+iq+qc 0cs+b+TEARS+OF+JOY 0iq+cs+b+ed+kx d+p+iq+qc
    gCOLD+SWEAT gTIGHTLY-CLOSED+qc 8HALO 9ORNS 0WINKING+cs 0iq+cs+b+iq+qc
    0cs+SAVOURING+DELICIOUS+FOOD 0RELIEVED+cs 0iq+cs+b+HEART-SHAPED+qc 8SUNGLASSES 0SMIRKING+cs
    0gy+cs 0EXPRESSIONLESS+cs 0UNAMUSED+cs 0cs+b+COLD+SWEAT 0PENSIVE+cs 0CONFUSED+cs 4OUNDED+cs
    0KISSING+cs 0cs+THROWING+A+KISS 0KISSING+cs+b+iq+qc dfk+qc 0cs+b+STUCK-OUT+yu h+p+WINKING+EYE
    kTIGHTLY-CLOSED+qc 0DISAPPOINTED+cs 0WORRIED+cs 0ANGRY+cs 0POUTING+cs 0CRYING+cs 0PERSEVERING+cs
    0cs+b+LOOK+OF+TRIUMPH 0DISAPPOINTED+BUT+RELIEVED+cs 0FROWNING+cs+b+ed+kx 0ANGUISHED+cs
    0FEARFUL+cs 0WEARY+cs 0SLEEPY+cs 0TIRED+cs 0GRIMACING+cs 0LOUDLY+CRYING+cs 0cs+b+ed+kx
    0HUSHED+cs 0cs+b+ed+kx+p+COLD+SWEAT 3SCREAMING+IN+FEAR 0ASTONISHED+cs 0FLUSHED+cs 0SLEEPING+cs
    0DIZZY+cs 0cs+WITHOUT+kx 3b+MEDICAL+MASK 0GRINNING+CAT+cs+b+iq+qc 0CAT+cs+b+TEARS+OF+JOY
    0iq+CAT+cs+b+ed+kx cHEART-SHAPED+qc 0CAT+cs+b+WRY+SMILE 0KISSING+CAT+cs+b+fk+qc 0POUTING+CAT+cs
    0CRYING+CAT+cs 0WEARY+CAT+cs 0SLIGHTLY+FROWNING+cs 9iq+cs 0UPSIDE-DOWN+cs 0cs+b+ROLLING+qc
    5NO+GOOD+GESTURE 5OK+GESTURE 0kz+BOWING+DEEPLY 0SEE-NO-EVIL+MONKEY 0HEAR-NO-EVIL+MONKEY
    0SPEAK-NO-EVIL+MONKEY 0HAPPY+kz+RAISING+bs+kq 0kz+RAISING+BOTH+xq+IN+CELEBRATION 3FROWNING
    3b+POUTING+cs 5FOLDED+xq 0fe+gw+bb+pg 1v+gw+bb+pg 1e+fz+bb+pg 1v+fz+bb+pg 0bh+fe+gw+bb+pg
    4v+gw+bb+pg 4e+fz+bb+pg 4v+fz+bb+pg 0fe+gw+bb+VINE+pg 1v+gw+bb+VINE+pg 1e+fz+bb+VINE+pg
    1v+fz+bb+VINE+pg 0al+fe+gw+bb+VINE+pg 4v+gw+bb+VINE+pg 4e+fz+bb+VINE+pg 4v+fz+bb+VINE+pg
    0fe+gw+bb+BUD 1v+gw+bb+BUD 1e+fz+bb+BUD 1v+fz+bb+BUD 0al+fe+gw+bb+BUD 4v+gw+bb+BUD 4e+fz+bb+BUD
    4v+fz+bb+BUD 0HOLLOW+QUILT+an+bo i+IN+x+an 0SOLID+QUILT+an+bo h+IN+x+an 0q+ROCKET 0ap+ROCKET
    0k+ROCKET 0aa+ROCKET 0hn+dj+ET+bo 0al+hn+dj+ET+bo 0dj+ed+ET+bo 0al+dj+ed+ET+bo 3ms+bo
    0SWASH+ms+bo 0dt+al+l+bh+dp+dg+aj+bo 8dp+dg+aj+bo 6hl+l+dp+dg+aj+bo 0al+qz+bo 0dt+qz+bo
    0al+dt+qz+bo 0lz+al+gj 6hg+gj 0CHECKER+BOARD 0hg+CHECKER+BOARD 0ROCKET 0HELICOPTER
    0STEAM+LOCOMOTIVE 0RAILWAY+CAR 0HIGH-SPEED+TRAIN g+b+mb+NOSE 0TRAIN 0METRO 0bl+RAIL 0STATION
    0TRAM 4+CAR 0BUS 0ye+BUS 0TROLLEYBUS 0BUS+fb 0MINIBUS 0AMBULANCE 0FIRE+ENGINE 0POLICE+CAR
    0ye+POLICE+CAR 0TAXI 0ye+TAXI 0AUTOMOBILE 0ye+AUTOMOBILE 0RECREATIONAL+VEHICLE 0DELIVERY+TRUCK
    0ARTICULATED+LORRY 0TRACTOR 0MONORAIL 0ph+RAILWAY 0SUSPENSION+RAILWAY 0ph+CABLEWAY
    0AERIAL+TRAMWAY 0SHIP 0ROWBOAT 0SPEEDBOAT 0y+TRAFFIC+bl 0r+TRAFFIC+bl 0CONSTRUCTION+g
    0POLICE+CARS+REVOLVING+bl 0ec+zh+ON+POST 0DOOR 0NO+ENTRY+g 0SMOKING+w 0NO+SMOKING+w
    0PUT+LITTER+IN+ITS+PLACE+w 0DO+ld+LITTER+w 0POTABLE+rm+w 0NON-POTABLE+rm+w 0BICYCLE 0NO+BICYCLES
    0BICYCLIST 0ph+BICYCLIST 0PEDESTRIAN 0NO+PEDESTRIANS 0CHILDREN+dq 0MENS+w 0WOMENS+w 0RESTROOM
    0BABY+w 0TOILET 0rm+CLOSET 0SHOWER 0BATH 4TUB 0PASSPORT+CONTROL 0CUSTOMS 0BAGGAGE+CLAIM
    0o+LUGGAGE 0ah+b+oe+wn 0PROHIBITED+g 0cl+INFORMATION+SOURCE 0BOYS+w 0GIRLS+w 0COUCH+p+LAMP
    0SLEEPING+ACCOMMODATION 1HOPPING+BAGS 0BELLHOP+BELL 2D 0PLACE+OF+WORSHIP 0OCTAGONAL+g
    0SHOPPING+TROLLEY 1TUPA 0PAGODA 0HINDU+TEMPLE 1UT 0ELEVATOR 6:0PLAYGROUND+SLIDE 0WHEEL 0dh+BUOY
    0HAMMER+p+WRENCH 0SHIELD 0OIL+DRUM 0MOTORWAY 0RAILWAY+TRACK 0MOTOR+BOAT 0ge+MILITARY+qp 3qp
    3d+qp 0d+qp 0NORTHEAST-POINTING+qp 0qp+DEPARTURE 3ARRIVING 4:0SATELLITE 0ye+FIRE+ENGINE
    0DIESEL+LOCOMOTIVE 0PASSENGER+SHIP 0SCOOTER 0MOTOR+SCOOTER 0CANOE 0SLED 0FLYING+SAUCER
    0SKATEBOARD 0AUTO+RICKSHAW 0PICKUP+TRUCK 0ROLLER+SKATE 4:0ALCHEMICAL+w+qm+QUINTESSENCE gAIR
    gFIRE gqh grm gAQUAFORTIS k+REGIA q-2 lVITAE q-2 gVINEGAR n-2 o3 gSULFUR gPHILOSOPHERS+SULFUR
    gx+SULFUR gMERCURY+uz oSUBLIMATE-2 y3 gCINNABAR gSALT gNITRE gVITRIOL n-2 gROCK+SALT p-2 gGOLD
    gSILVER gIRON+ORE o-2 gCROCUS+OF+IRON gREGULUS+OF+IRON gCOPPER+ORE gIRON-COPPER+ORE
    guz+OF+COPPER gCROCUS+OF+COPPER w-2 hOPPER+ANTIMONIATE gSALT+OF+COPPER+ANTIMONIATE
    guz+OF+SALT+OF+COPPER gVERDIGRIS gTIN+ORE gLEAD+ORE gtb+ORE guz+OF+tb gSALT+OF+tb
    guz+OF+SALT+OF+tb gVINEGAR+OF+tb gREGULUS+OF+tb rANTIMONY-2 n n-2 o3 o4 gALKALI m-2 gMARCASITE
    gSAL-AMMONIAC gARSENIC gREALGAR n-2 gAURIPIGMENT gBISMUTH+ORE gTARTAR m-2 gQUICK+LIME gBORAX l-2
    m3 gALUM gOIL gSPIRIT gTINCTURE gGUM gWAX gPOWDER gCALX gTUTTY gCAPUT+MORTUUM gSCEPTER+OF+JOVE
    gCADUCEUS gTRIDENT gSTARRED+TRIDENT gLODESTONE gSOAP gURINE gxr+DUNG gASHES gPOT+ASHES gBRICK
    gPOWDERED+BRICK gAMALGAM gSTRATUM+SUPER+STRATUM zUM-2 hUBLIMATION gPRECIPITATE gDISTILL jSOLVE
    o-2 gPURIFY iTREFACTION gCRUCIBLE o-2 p3 p4 p5 gALEMBIC gBATH+OF+MARY oVAPOURS gRETORT gHOUR
    gNIGHT gDAY-NIGHT gMONTH gcc+DRAM jOUNCE d:0x+dd+ISOSCELES+h+ah 2ge+ISOSCELES+h+ah
    2cd+ISOSCELES+h+ah 2gb+ISOSCELES+h+ah 2SLIGHTLY+d+ao 0be+lh+z+ao 0lh+z+ao 0al+z+ao 0lz+al+z+ao
    0rq+al+z+ao 0z+ao+ne+x+d+ao 0sl+TARGET 0x+TINY+an 2SLIGHTLY+d+an 0bl+z+an 1e+z+an 0lh+z+an
    0al+z+an 0lz+al+z+an 0rq+al+z+an 0z+an+ne+x+lz+d+an abe+an 0an+TARGET 0x+TINY+di 2lz+d+di
    2be+d+di 0z+di+ne+x+lz+d+di abe+di 0di+TARGET 0x+TINY+kw 2lz+d+kw 2be+d+kw 0z+kw+ne+x+d+kw
    0THIN+jg+fn 0bl+jg+fn 1e+jg+fn 0lh+jg+fn 1z+lh+jg+fn 3al+jg+fn 0rq+al+jg+fn 0THIN+mo 0bl+mo
    1e+mo 0lh+mo 0al+mo 0lz+al+mo 0rq+al+mo 0bl+ay+jt+ch 1e+ay+jt+ch 0lh+ay+jt+ch 0al+ay+jt+ch
    0lz+al+ay+jt+ch 0rq+al+ay+jt+ch 0bl+ev+jt+ch 1e+ev+jt+ch 0lh+ev+jt+ch 0al+ev+jt+ch
    0lz+al+ev+jt+ch 0rq+al+ev+jt+ch 0bl+ar+jt+ch 1e+ar+jt+ch 0lh+ar+jt+ch 0al+ar+jt+ch
    0lz+al+ar+jt+ch 0bl+t+dz+x+gg 1e+t+dz+x+gg 0t+dz+x+gg 0be+t+dz+nl+gg 1l+at+dz+x+gg 1e+at+dz+x+gg
    0at+dz+x+gg 0be+at+dz+nl+gg 0hg+bl+at+dz+nl+gg 0bl+ay+dz+x+gg 0al+ay+dz+x+gg 0be+ev+dz+x+gg
    0al+ev+dz+x+gg 0ev+dz+nl+gg 0be+ar+dz+x+gg 0al+ar+dz+x+gg 0lz+al+ar+dz+x+gg 0al+ar+dz+nl+gg
    0bl+me+dz+x+gg 0al+me+dz+x+gg 9nl+gg 0cl+ah 0ie+cl+ah 0cl+an 0ie+cl+an 8:0dc+ORANGE+ao
    3YELLOW+ao 3GREEN+ao 3PURPLE+ao 3BROWN+ao 3RED+an 3BLUE+an 3ORANGE+an 3YELLOW+an 3GREEN+an
    3PURPLE+an 3BROWN+an 5:0al+fl+g 10:0q+f+b+d+ah+am 0ap+f+b+d+ah+am 0k+f+b+d+ah+am 0aa+f+b+d+ah+am
    0q+f+b+be+ah+am 0ap+f+b+be+ah+am 0k+f+b+be+ah+am 0aa+f+b+be+ah+am 0q+f+b+dc+ah+am
    0ap+f+b+dc+ah+am 0k+f+b+dc+ah+am 0aa+f+b+dc+ah+am 5:0q+f+b+d+de+am 0ap+f+b+d+de+am
    0k+f+b+d+de+am 0aa+f+b+d+de+am 0q+f+b+de+am 0ap+f+b+de+am 0k+f+b+de+am 0aa+f+b+de+am
    1l+q+f+b+de+am 3ap+f+b+de+am 3k+f+b+de+am 3aa+f+b+de+am 3q+f+b+dc+de+am 3ap+f+b+dc+de+am
    3k+f+b+dc+de+am 3aa+f+b+dc+de+am 0q+v+f+b+NARROW+kj 0ap+v+f+b+NARROW+kj 0k+v+f+b+NARROW+kj
    0aa+v+f+b+NARROW+kj 0q+v+f+b+be+kj 0ap+v+f+b+be+kj 0k+v+f+b+be+kj 0aa+v+f+b+be+kj 0q+v+f+b+lh+kj
    0ap+v+f+b+lh+kj 0k+v+f+b+lh+kj 0aa+v+f+b+lh+kj 0q+v+f+b+al+kj 0ap+v+f+b+al+kj 0k+v+f+b+al+kj
    0aa+v+f+b+al+kj 0q+v+f+b+lz+al+kj 0ap+v+f+b+lz+al+kj 0k+v+f+b+lz+al+kj 0aa+v+f+b+lz+al+kj
    0q+vn+f 0ap+vn+f 0k+vn+f 0aa+vn+f 0q+ea+f 0ap+ea+f 0k+ea+f 0aa+ea+f 0q+lk+f 0ap+lk+f 0k+lk+f
    0aa+lk+f 0q+al+lk+f 0ap+al+lk+f 0k+al+lk+f 0aa+al+lk+f 0q+al+f 0ap+al+f 0k+al+f 0aa+al+f
    9:0q+dt+f 0ap+dt+f 0k+dt+f 0aa+dt+f 0fe+gw+dt+f 3fz+dt+f 1v+fz+dt+f 3gw+dt+f 0o+h+dt+f
    0UP+cb+dt+f 7:0WIDE-HEADED+q+bl+dk+f cap+bl+dk+f ck+bl+dk+f caa+bl+dk+f cfe+gw+bl+dk+f
    ffz+bl+dk+f dv+fz+bl+dk+f fgw+bl+dk+f cq+dk+f cap+dk+f ck+dk+f caa+dk+f cfe+gw+dk+f ffz+dk+f
    dv+fz+dk+f fgw+dk+f cq+be+dk+f cap+be+dk+f ck+be+dk+f caa+be+dk+f cfe+gw+be+dk+f ffz+be+dk+f
    dv+fz+be+dk+f fgw+be+dk+f cq+al+dk+f cap+al+dk+f ck+al+dk+f caa+al+dk+f cfe+gw+al+dk+f
    ffz+al+dk+f dv+fz+al+dk+f fgw+al+dk+f cq+lz+al+dk+f cap+lz+al+dk+f ck+lz+al+dk+f caa+lz+al+dk+f
    cfe+gw+lz+al+dk+f ffz+lz+al+dk+f dv+fz+lz+al+dk+f fgw+lz+al+dk+f 9:0q+ah+am 0ap+ah+am 0k+ah+am
    0aa+ah+am 0q+z+f+yz+ah+am 0ap+z+f+yz+ah+am 0k+z+f+yz+ah+am 0aa+z+f+yz+ah+am 0q+f+b+qf+gu
    0ap+f+b+qf+gu 0k+f+b+qf+gu 0aa+f+b+qf+gu 1l+f+kj+WIDTH+bs fn+ta fs+cc hrk 0q+BOTTOM-SHADED+z+f
    0k+fx+SHADED+z+f 0q+pw+SHADED+z+f 0k+pw+SHADED+z+f 0q+LEFT-SHADED+z+f 0k+RIGHT-SHADED+z+f
    0q+RIGHT-SHADED+z+f 0k+LEFT-SHADED+z+f 0q+BACK-TILTED+jl+z+f 0k+BACK-TILTED+jl+z+f
    0q+FRONT-TILTED+jl+z+f 0k+FRONT-TILTED+jl+z+f 0z+f+kj+WIDTH+bs en+ta 3:0f+bb+ap+THEN+fe+gw
    5k+THEN+CURVING+fv+gw 4f:0cl+fn+FORMEE+b+at+cu fbn+cu c 0o+cc+ao+b+at+cu at+cu abn+cu bw 7
    0DOWNWARD+FACING+av gqf+av gav+b+bw gqf+av+b+bw 0PINCHED+gh 0z+id 0BROWN+id 0PINCHING+kq
    0ZIPPER-MOUTH+cs 0MONEY-MOUTH+cs 0cs+b+THERMOMETER 0NERD+cs 0THINKING+cs 0cs+b+HEAD-BANDAGE
    0ROBOT+cs 0HUGGING+cs 0g+OF+qn+HORNS 0CALL+ME+kq 0hf+ze+OF+kq 0vp+FIST 0ty+FIST 0HANDSHAKE
    0kq+b+bk+p+ad+gh+ko 0I+LOVE+YOU+kq+g 0cs+b+COWBOY+HAT 0CLOWN+cs 0NAUSEATED+cs
    0ROLLING+ON+qn+vo+LAUGHING 0DROOLING+cs 0LYING+cs 0cs+PALM 0SNEEZING+cs 0cs+b+bs+EYEBROW+hf
    0GRINNING+cs+b+gg+qc ebs+dc+p+bs+d+EYE 0cs+b+um+COVERING+fk+LIPS
    0SERIOUS+cs+b+SYMBOLS+COVERING+kx 0iq+cs+b+iq+qc+p+kq+COVERING+kx 0cs+b+ed+kx+VOMITING
    0SHOCKED+cs+b+EXPLODING+qx 0PREGNANT+WOMAN 0BREAST-FEEDING 0PALMS+UP+TOGETHER 0SELFIE 0PRINCE
    0MAN+IN+TUXEDO 1OTHER+CHRISTMAS 0SHRUG 0kz+DOING+CARTWHEEL 0JUGGLING 0FENCER 0MODERN+PENTATHLON
    0WRESTLERS 0rm+POLO 0HANDBALL 0DIVING+MASK 0WILTED+FLOWER 0DRUM+b+DRUMSTICKS 0CLINKING+GLASSES
    0TUMBLER+GLASS 0SPOON 0GOAL+NET 0RIFLE 0xl+PLACE+MEDAL 0ym+PLACE+MEDAL 0rk+PLACE+MEDAL
    0BOXING+GLOVE 0MARTIAL+ARTS+UNIFORM 0CURLING+STONE 0LACROSSE+STICK+p+zf 0SOFTBALL 0FLYING+DISC
    0CROISSANT 0AVOCADO 0CUCUMBER 0BACON 0POTATO 0CARROT 0BAGUETTE+BREAD 0GREEN+SALAD
    0SHALLOW+PAN+OF+FOOD 1TUFFED+FLATBREAD 0EGG 0GLASS+OF+MILK 0PEANUTS 0KIWIFRUIT 0PANCAKES
    0DUMPLING 0FORTUNE+COOKIE 0TAKEOUT+wc 0CHOPSTICKS 0BOWL+b+SPOON 0CUP+b+STRAW 1OCONUT 0BROCCOLI
    0PIE 1RETZEL 0CUT+OF+MEAT 0SANDWICH 0CANNED+FOOD 0LEAFY+GREEN 0MANGO 0mn+CAKE 0BAGEL
    0iq+cs+b+iq+qc+p+t+kd 0YAWNING+cs 0iq+cs+b+TEAR 0cs+b+PARTY+jv+p+PARTY+HAT 5UNEVEN+qc+p+WAVY+kx
    0OVERHEATED+cs 0FREEZING+cs 0NINJA 0DISGUISED+cs 0cs+wq+ze+TEARS 3b+PLEADING+qc 0SARI 0LAB+COAT
    0GOGGLES 0HIKING+BOOT 0FLAT+SHOE 0CRAB 0LION+cs 0SCORPION 0TURKEY 0UNICORN+cs 0EAGLE 0DUCK 0BAT
    0SHARK 0OWL 0FOX+cs 0BUTTERFLY 0DEER 0GORILLA 0LIZARD 0RHINOCEROS 0SHRIMP 1QUID 0GIRAFFE+cs
    0ZEBRA+cs 0HEDGEHOG 0SAUROPOD 0T-REX 0CRICKET 0KANGAROO 0LLAMA 0PEACOCK 0HIPPOPOTAMUS 0PARROT
    0RACCOON 0LOBSTER 0MOSQUITO 1ICROBE 0BADGER 0SWAN 0MAMMOTH 0DODO 0SLOTH 0OTTER 1RANGUTAN 0SKUNK
    0FLAMINGO 0OYSTER 0BEAVER 1ISON 0SEAL 0GUIDE+DOG 0PROBING+CANE 0EMOJI+COMPONENT+RED+HAIR
    gja+HAIR gBALD gz+HAIR 0BONE 0LEG 0FOOT 0TOOTH 0SUPERHERO 5VILLAIN 1AFETY+VEST
    0EAR+b+HEARING+AID 0MOTORIZED+WHEELCHAIR 1ANUAL+WHEELCHAIR 1ECHANICAL+ARM bLEG 0CHEESE+WEDGE
    1UPCAKE 0SALT+SHAKER 0BEVERAGE+wc 0GARLIC 0ONION 0FALAFEL 0WAFFLE 0BUTTER 0MATE+DRINK 0ICE+CUBE
    0sr+TEA 0TROLL 0STANDING+kz 0KNEELING+kz 0DEAF+kz 0cs+b+MONOCLE 0ADULT 0CHILD 0OLDER+ADULT
    0BEARDED+kz 0kz+b+HEADSCARF 3IN+STEAMY+ROOM 3CLIMBING 3IN+LOTUS+POSITION 0MAGE 0FAIRY 0VAMPIRE
    0MERPERSON 0ELF 0GENIE 0ZOMBIE 0BRAIN 0ORANGE+id 0BILLED+CAP 0SCARF 0GLOVES 0COAT 0SOCKS
    0RED+GIFT+ni 0FIRECRACKER 0JIGSAW+PUZZLE+PIECE 0TEST+TUBE 0PETRI+on 0DNA+l+HELIX 0COMPASS
    0ABACUS 0FIRE+EXTINGUISHER 0TOOLBOX 0BRICK 0MAGNET 0LUGGAGE 1OTION+BOTTLE 0SPOOL+OF+THREAD
    0zf+OF+YARN 0SAFETY+PIN 0TEDDY+BEAR 0BROOM 1ASKET 0ROLL+OF+PAPER 0fa+OF+SOAP 0SPONGE 0RECEIPT
    0NAZAR+AMULET 0gy+hm+sb 6od 6zr 6om 6gs 6zm 0z+hm+gs+bp+FORTY-FIVE+cn 0x+hm+gs+bp+FORTY-FIVE+cn
    0gy+hm+gs+bp+FORTY-FIVE+cn 0z+hm+sb+bp+ez+cn 5od+bp+ez+cn 5zr+bp+ez+cn 5om+bp+ez+cn 5gs+bp+ez+cn
    5zm+bp+ez+cn 0x+hm+sb+bp+ez+cn 5od+bp+ez+cn 5zr+bp+ez+cn 5om+bp+ez+cn 5gs+bp+ez+cn 5zm+bp+ez+cn
    0gy+hm+sb+bp+ez+cn 6od+bp+ez+cn 6zr+bp+ez+cn 6om+bp+ez+cn 6gs+bp+ez+cn 6zm+bp+ez+cn
    0z+hm+gs+bp+bs+ab+THIRTY-FIVE+cn 0x+hm+gs+bp+bs+ab+THIRTY-FIVE+cn
    0gy+hm+gs+bp+bs+ab+THIRTY-FIVE+cn 0z+hm+bh+sb 8od 8zr 8om 8gs 8zm 0x+hm+bh+sb 8od 8zr 8om 8gs
    8zm 0gy+hm+bh+sb 9od 9zr 9om 9gs 9zm 0z+hm+gs+bp+bn+ab+wb+cn 0x+hm+gs+bp+bn+ab+wb+cn
    0gy+hm+gs+bp+bn+ab+wb+cn 0z+hm+sb+bp+bn+ab+ef+cn 5od+bp+bn+ab+ef+cn 5zr+bp+bn+ab+ef+cn
    5om+bp+bn+ab+ef+cn 5gs+bp+bn+ab+ef+cn 5zm+bp+bn+ab+ef+cn 0x+hm+sb+bp+bn+ab+ef+cn
    5od+bp+bn+ab+ef+cn 5zr+bp+bn+ab+ef+cn 5om+bp+bn+ab+ef+cn 5gs+bp+bn+ab+ef+cn 5zm+bp+bn+ab+ef+cn
    0gy+hm+sb+bp+bn+ab+ef+cn 6od+bp+bn+ab+ef+cn 6zr+bp+bn+ab+ef+cn 6om+bp+bn+ab+ef+cn
    6gs+bp+bn+ab+ef+cn 6zm+bp+bn+ab+ef+cn 0z+hm+gs+bp+t+ab+ml+cn 0x+hm+gs+bp+t+ab+ml+cn
    0gy+hm+gs+bp+t+ab+ml+cn 0z+hm+qb 0x+hm+qb 0gy+hm+qb 0z+hm+qb+bp+ez+cn 0x+hm+qb+bp+ez+cn
    0gy+hm+qb+bp+ez+cn 0z+hm+KNIGHT-QUEEN cROOK cBISHOP 0x+hm+KNIGHT-QUEEN cROOK cBISHOP
    d:0XIANGQI+RED+GENERAL cMANDARIN cELEPHANT cxr cCHARIOT dANNON cSOLDIER 8x+GENERAL aMANDARIN
    aELEPHANT axr aCHARIOT bANNON aSOLDIER 3:0BALLET+SHOES 0ONE-PIECE+SWIMSUIT 0BRIEFS 0SHORTS
    0THONG+SANDAL 4:0DROP+OF+BLOOD 0ADHESIVE+BANDAGE 0STETHOSCOPE 0X-RAY 0CRUTCH 4:0YO-YO 0KITE
    0PARACHUTE 0BOOMERANG 0MAGIC+WAND 0PINATA 0NESTING+DOLLS a:0RINGED+PLANET 0CHAIR 0RAZOR 0AXE
    0DIYA+LAMP 0BANJO 0MILITARY+HELMET 0ACCORDION 0eh+DRUM 0COIN 1ARPENTRY+SAW 0SCREWDRIVER 0LADDER
    0av 0MIRROR 0WINDOW 0PLUNGER 0SEWING+NEEDLE 0KNOT 0BUCKET 0MOUSE+TRAP 0TOOTHBRUSH 0HEADSTONE
    0PLACARD 0ROCK 0MIRROR+zf 0IDENTIFICATION+CARD 0hl+BATTERY 0HAMSA 4:0FLY 0WORM 0BEETLE
    0COCKROACH 0POTTED+PLANT 0WOOD 0FEATHER 0LOTUS 0CORAL 0EMPTY+NEST 0NEST+b+EGGS 6:0ANATOMICAL+id
    0LUNGS 0PEOPLE+HUGGING 1REGNANT+MAN 9kz 0kz+b+CROWN b:0BLUEBERRIES 1ELL+PEPPER 0OLIVE 0FLATBREAD
    0TAMALE 0FONDUE 0TEAPOT 0POURING+LIQUID 0BEANS 0JAR 7:0MELTING+cs 0SALUTING+cs
    0cs+b+ed+qc+p+kq+cw+kx 5PEEKING+EYE 5cm+kx 0ey+ft+cs 0BITING+LIP 1UBBLES 9:0kq+b+bk+um+p+ct+ko
    1+kq 0q+kq 0PALM+cb+kq 5UP+kq 0bk+bb+AT+qn+VIEWER 0id+xq a:0dw+SEXTANT-1 b2 b12 b3 b13 b23 b123
    b4 b14 b24 b124 b34 b134 b234 b1234 b5 b15 b25 b125 b35 b235 b1235 b45 b145 b245 b1245 b345
    b1345 b2345 b12345 b6 b16 b26 b126 b36 b136 b236 b1236 b46 b146 c246 b346 b1346 b2346 b12346 b56
    b156 b256 b1256 b356 b1356 b2356 b12356 b456 b1456 b2456 b12456 b3456 b13456 b23456
    0bt+o+dw+cm+bt+ad+o+TO+bt+cz ph bcr+ad+o+TO+bt+cz ph eo+TO+bt+cz 3h+dw+cm+cr+ad+o+TO+cr+cz ph
    bbt+ad+o+TO+cr+cz ph eo+TO+cr+cz ead+o+TO+cr+ad+h ecz+TO+bt+ad+h eo+TO+bt+ad+h ecz+TO+cr+ad+h
    eo+TO+cr+ad+h ecz+TO+cr+h 3o+dw+cm+cr+cz+TO+cr+ad+h eo+TO+cr+ad+h ecz+TO+bt+ad+h eo+TO+bt+ad+h
    ecz+TO+bt+h ead+o+TO+bt+ad+h 0cr+h+dw+cm+bt+ad+o+TO+bt+cz ph bcr+ad+o+TO+bt+cz ph eo+TO+bt+cz
    3o+dw+cm+cr+ad+o+TO+cr+cz ph bbt+ad+o+TO+cr+cz ph eo+TO+cr+cz ead+o+TO+cr+ad+h ecz+TO+bt+ad+h
    eo+TO+bt+ad+h ecz+TO+cr+ad+h eo+TO+cr+ad+h ecz+TO+cr+h 3h+dw+cm+cr+cz+TO+cr+ad+h eo+TO+cr+ad+h
    ecz+TO+bt+ad+h eo+TO+bt+ad+h ecz+TO+bt+h ead+o+TO+bt+ad+h 3p+h+p+bt+ec+t+ig+dw
    0o+p+bt+p+h+ec+t+ig+dw 0cr+p+o+p+bt+ec+t+ig+dw 0o+p+cr+p+h+ec+t+ig+dw 2ec+bs+ek+dw
    0cr+ec+bs+ek+dw 0h+ec+bs+ek+dw 0bt+ec+bs+ek+dw 0r+bs+hb+BLOCK-2 e3 e4 e5 e6 e7 0y+bs+hb+BLOCK-2
    e3 e4 e5 e6 e7 0o+p+bt+bs+hb+dw 4cr+bs+hb+dw 0h+p+cr+bs+hb+dw 4bt+bs+hb+dw 0cr+p+bt+bs+hb+dw
    0y+bs+hb+BLOCK-1358 0cr+bs+ek+dw 3t+jo+dw 3ay+jo+dw 3t+ig+dw 3au+jo+dw 0h+bs+ek+dw 2t+jo+dw
    2ay+jo+dw 2t+ig+dw 2au+jo+dw 0o+cc+be+pq 0h+cc+be+pq 0cr+cc+be+pq 0bt+cc+be+pq 0nz+be+pq
    0cr+cc+dw+p+bt+cc+nz+be+pq 6nz+be+pq+p+bt+cc+dw 2:0o+cc+nz+be+pq+p+h+cc+dw 0CHECKER+BOARD+wd
    0nz+CHECKER+BOARD+wd 0al+y+wd 0cr+o+TO+bt+h+wd 3h+TO+bt+o+wd 3p+bt+ec+cc+dw 0o+p+h+ec+cc+dw
    0cr+o+ec+be+pq 3h+ec+be+pq 0bt+h+ec+be+pq 3o+ec+be+pq 0wc+DRAWINGS+bl+cm+cr+cz+TO+ad+o uh
    iad+o+TO+bt+cz lh+TO+bt+cz icr+cz+TO+ad+o+TO+bt+cz uh+TO+bt+cz iad+o+TO+bt+cz+TO+ad+h
    qcr+cz+TO+ad+h icr+cz+TO+ad+o+p+ad+h+TO+bt+cz uh+p+ad+o+TO+bt+cz wTO+bt+cz+TO+ad+o
    uo+TO+bt+cz+TO+ad+h iad+o+TO+cr+cz+TO+ad+h+TO+bt+cz lh+TO+cr+cz+TO+ad+o+TO+bt+cz idi fy+b+r+u
    0ARROWHEAD-SHAPED+POINTER 0nz+se+aj 0o+cc+RUNNING+MAN 0h+cc+RUNNING+MAN 0nz+aa+f+b+TIP+q
    0q+f+p+cr+p+bt+bs+hb+dw 0k+f+p+cr+p+bt+bs+hb+dw 0aa+f+p+h+bs+hb+dw 1p+f+p+h+bs+hb+dw 0o+cc+xn
    0h+cc+xn 0VOIDED+jg+fn 0h+ed+ea+bw 0ie+cm+fn 6ad+h+TO+bt+cz 6di 0z+al+mo+b+oe+wn 0o+rk+z+h+bb+bk
    0ad+rk+z+h+bb+bk 0h+rk+z+h+bb+bk 0ie+ea+eb+aj 0STICK+FIGURE c+b+ARMS+hf dLEANING+o lh db+DRESS
    0z+ge+CHEVRON 26:0SEGMENTED+br+du dbs en dt dat ey dev dau er dcj c0408:0LANGUAGE+TAG 1f:0TAG+kk
    4cy+aj 4dg+aj 4cq+g 4xj+g 4PERCENT+g 4ms 4kb 4o+bd 4h+bd 4ch 4bx+g 4dp 4tm 4hd+fb 4gj 4br+du 7bs
    8n 7t 7at 8y 7ev 7au 8r 7cj 4hs 4ix 4aw+g 4fl+g 4ai+g 4eb+aj 4ss+AT 4es+c+a+A bB bC bD bE bF bG
    bH bI bJ bK bL bM bN bO bP bQ bR bS bT bU bV bW bX bY bZ 4o+an+ae 4hg+gj 5+an+ae 4af+eu 4hl+ft
    4df+eu 4es+d+a+A bB bC bD bE bF bG bH bI bJ bK bL bM bN bO bP bQ bR bS bT bU bV bW bX bY bZ
    4o+ja+ae 4r+ft 4h+ja+ae 4bq 0CANCEL+TAG 81:0vc+SELECTOR-17 d8 d9 c20 d1 d2 d3 d4 d5 d6 d7 d8 d9
    c30 d1 d2 d3 d4 d5 d6 d7 d8 d9 c40 d1 d2 d3 d4 d5 d6 d7 d8 d9 c50 d1 d2 d3 d4 d5 d6 d7 d8 d9 c60
    d1 d2 d3 d4 d5 d6 d7 d8 d9 c70 d1 d2 d3 d4 d5 d6 d7 d8 d9 c80 d1 d2 d3 d4 d5 d6 d7 d8 d9 c90 d1
    d2 d3 d4 d5 d6 d7 d8 d9 c100 e1 e2 e3 e4 e5 e6 e7 e8 e9 d10 e1 e2 e3 e4 e5 e6 e7 e8 e9 d20 e1 e2
    e3 e4 e5 e6 e7 e8 e9 d30 e1 e2 e3 e4 e5 e6 e7 e8 e9 d40 e1 e2 e3 e4 e5 e6 e7 e8 e9 d50 e1 e2 e3
    e4 e5 e6 e7 e8 e9 d60 e1 e2 e3 e4 e5 e6 e7 e8 e9 d70 e1 e2 e3 e4 e5 e6 e7 e8 e9 d80 e1 e2 e3 e4
    e5 e6 e7 e8 e9 d90 e1 e2 e3 e4 e5 e6 e7 e8 e9 c200 e1 e2 e3 e4 e5 e6 e7 e8 e9 d10 e1 e2 e3 e4 e5
    e6 e7 e8 e9 d20 e1 e2 e3 e4 e5 e6 e7 e8 e9 d30 e1 e2 e3 e4 e5 e6 e7 e8 e9 d40 e1 e2 e3 e4 e5 e6
    e7 e8 e9 d50 e1 e2 e3 e4 e5 e6"

/-- The further names of characters, with entries of the same form. -/
def charAliasText : String :=
  "0:0NUL 0:3L 0SOH 0:1TART+OF+HEADING 9TEXT 0:2X 0ui+OF+TEXT 0:0ETX 0ui+OF+TRANSMISSION 0:0EOT 1NQ
    0:3UIRY 0ACK 0:3NOWLEDGE 1LERT 0:0BEL 1ACKSPACE 0:1S 0lj+TABULATION 0:0y+TABULATION 0:0HT 0:0TAB
    0ui+OF+ft 0:0EOL 0:0LF 0:0ft+FEED 0:0NEW+ft 0:1L 0ft+TABULATION 0:0r+TABULATION 0:0VT 0FF
    0:0e+FEED 0CARRIAGE+RETURN 0:1R 0LOCKING-SHIFT+bs 0:0SHIFT+OUT 0:1O 0LOCKING-SHIFT+du
    0:0SHIFT+IN 0:1I 0DATA+LINK+ESCAPE 0:1LE 1C1 0:1EVICE+CONTROL+bs 1C2 0:1EVICE+CONTROL+bn 1C3
    0:1EVICE+CONTROL+t 1C4 0:1EVICE+CONTROL+at 0NAK 0:0ie+ACKNOWLEDGE 0SYN 0:3CHRONOUS+IDLE
    0ui+OF+TRANSMISSION+dw 0:0ETB 0CAN 0:3CEL 0ui+OF+be 0:0EOM 0SUB 0:3STITUTE 0ESC 0:3APE 0FILE+ei
    0:1S 0:0INFORMATION+ei+at 0GROUP+ei 0:1S 0:0INFORMATION+ei+t fbn 0:0RECORD+ei 0:1S
    0INFORMATION+ei+bs 0:0UNIT+ei 0:1S 0SP 5f:0DEL 0:3ETE 0PAD 0:3DING+lj 0ew+OCTET+PRESET 0:0HOP
    0BPH 0:1REAK+PERMITTED+HERE 0NBH 0:1O+BREAK+HERE 0IND 0:0bk 0NEL 0:2XT+ft 0qj
    0:0START+OF+SELECTED+AREA 0ui+OF+SELECTED+AREA 0:0ESA 0lj+TABULATION+SET 0:0y+TABULATION+SET
    0:0HTS 0lj+TABULATION+b+JUSTIFICATION 0:0y+TABULATION+b+JUSTIFICATION 0:0HTJ 0ft+TABULATION+SET
    0:0r+TABULATION+SET 0:0VTS 0wv+ft+cb 0:6io 0:0PLD 0wv+ft+BACKWARD 0:6UP 0:0PLU 0hg+bk 0:3ft+FEED
    0:0RI 0ce+SHIFT+bn 0:0SINGLE-SHIFT-2 0:1S2 0ce+SHIFT+t 0:0SINGLE-SHIFT-3 0:1S3 0DCS
    0:1EVICE+CONTROL+STRING 0PRIVATE+USE+bs 0:b-1 0:1U1 1RIVATE+USE+bn 0:b-2 0:1U2
    0SET+TRANSMIT+STATE 0:1TS 0CANCEL+lj 0:1CH 0MESSAGE+WAITING 0:1W 0SPA 0:1TART+OF+GUARDED+AREA
    0:9PROTECTED+AREA 0ui+OF+GUARDED+AREA 0:6PROTECTED+AREA 0:0EPA 0SOS 0:1TART+OF+STRING 1GC
    0:0ce+GRAPHIC+lj+INTRODUCER 0SCI 0:0ce+lj+INTRODUCER 0CONTROL+SEQUENCE+INTRODUCER 0:1SI 0ST
    0:2RING+TERMINATOR 0OPERATING+SYSTEM+COMMAND 0:1SC 0PM 0:1RIVACY+MESSAGE 0APC
    0:2PLICATION+PROGRAM+COMMAND 0NBSP d:0SHY f5:0es+c+a+nu 3d+a+nu 1ac:0CGJ 2cd:0ALM
    ed:0SYRIAC+SUBLINEAR+hs+SKEWED+o 5d5:0KANNADA+a+LLLA 1bf:0LAO+a+FO+FON 2:aAY 4:6RO 2:6LO
    12b:0TIBETAN+aj+BKA-+SHOG+GI+MGO+RGYAN 21c:0sv+JONGSEONG+YESIEUNG-KIYEOK mSSANGKIYEOK
    dSSANGYESIEUNG dYESIEUNG-KHIEUKH 61c:0FVS1 32 33 0MVS 0FVS4 7fc:0ZWSP 2NJ 2J 0LRM 0RLM 1b:0LRE
    0RLE 0PDF 0LRO 0RLO 0NNBSP 30:0MMSP 0WJ 6:0LRI 0RLI 0FSI 0PDI af:0WEIERSTRASS+ELLIPTIC+FUNCTION
    330:0MICR+ON+US+w 5in+w 731:0q+v+f+b+l+r+u 2:0k+v+f+b+l+r+u 7499:0YI+hv+lm+aj
    a59:0MYANMAR+a+KHAMTI+wg 5392:0VS1 22 23 24 25 26 27 28 29 210 31 32 33 34 35 36
    9:0PRESENTATION+e+qm+r+h+z+lp+ae e7:0BOM 0:1YTE+ORDER+aj 0:0ZWNBSP 23d5:0CUNEIFORM+g+NU11+ir
    hcw+NU11+BUR+cw+BUR 4b81:0MEDEFAIDRIN+c+a+H gNG 1f:cd+a+H gNG 418a:0HENTAIGANA+a+E-1
    20c4:0BYZANTINE+ls+w+FTHORA+SKLIRON+CHROMA+VASIS c303b:0VS17 38 39 220 31 32 33 34 35 36 37 38
    39 230 31 32 33 34 35 36 37 38 39 240 31 32 33 34 35 36 37 38 39 250 31 32 33 34 35 36 37 38 39
    260 31 32 33 34 35 36 37 38 39 270 31 32 33 34 35 36 37 38 39 280 31 32 33 34 35 36 37 38 39 290
    31 32 33 34 35 36 37 38 39 2100 41 42 43 44 45 46 47 48 49 310 41 42 43 44 45 46 47 48 49 320 41
    42 43 44 45 46 47 48 49 330 41 42 43 44 45 46 47 48 49 340 41 42 43 44 45 46 47 48 49 350 41 42
    43 44 45 46 47 48 49 360 41 42 43 44 45 46 47 48 49 370 41 42 43 44 45 46 47 48 49 380 41 42 43
    44 45 46 47 48 49 390 41 42 43 44 45 46 47 48 49 2200 41 42 43 44 45 46 47 48 49 310 41 42 43 44
    45 46 47 48 49 320 41 42 43 44 45 46 47 48 49 330 41 42 43 44 45 46 47 48 49 340 41 42 43 44 45
    46 47 48 49 350 41 42 43 44 45 46"

end TypedClients.Text
