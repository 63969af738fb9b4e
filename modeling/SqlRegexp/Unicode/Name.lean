import SqlRegexp.Unicode.Ranges

/-!
Characters by their standard names: the printable characters of the Western blocks, the Greek and
Cyrillic letters and some common signs.
-/

namespace SqlRegexp.Unicode

open SqlRegexp.Text

/-- Code points with their names. -/
def characterNames : List (Nat × List Char) := (words table).map entry
where
  /-- The entry written as `41:LATIN_CAPITAL_LETTER_A`, with low lines for blanks. -/
  entry (cs : List Char) : Nat × List Char :=
    let name := (cs.dropWhile (· ≠ ':')).drop 1
    (readHex (cs.takeWhile (· ≠ ':')), name.map fun c => if c = '_' then ' ' else c)
  /-- The written entries. -/
  table : String :=
    "20:SPACE 21:EXCLAMATION_MARK 22:QUOTATION_MARK 23:NUMBER_SIGN 24:DOLLAR_SIGN
     25:PERCENT_SIGN 26:AMPERSAND 27:APOSTROPHE 28:LEFT_PARENTHESIS 29:RIGHT_PARENTHESIS
     2A:ASTERISK 2B:PLUS_SIGN 2C:COMMA 2D:HYPHEN-MINUS 2E:FULL_STOP 2F:SOLIDUS 30:DIGIT_ZERO
     31:DIGIT_ONE 32:DIGIT_TWO 33:DIGIT_THREE 34:DIGIT_FOUR 35:DIGIT_FIVE 36:DIGIT_SIX
     37:DIGIT_SEVEN 38:DIGIT_EIGHT 39:DIGIT_NINE 3A:COLON 3B:SEMICOLON 3C:LESS-THAN_SIGN
     3D:EQUALS_SIGN 3E:GREATER-THAN_SIGN 3F:QUESTION_MARK 40:COMMERCIAL_AT
     41:LATIN_CAPITAL_LETTER_A 42:LATIN_CAPITAL_LETTER_B 43:LATIN_CAPITAL_LETTER_C
     44:LATIN_CAPITAL_LETTER_D 45:LATIN_CAPITAL_LETTER_E 46:LATIN_CAPITAL_LETTER_F
     47:LATIN_CAPITAL_LETTER_G 48:LATIN_CAPITAL_LETTER_H 49:LATIN_CAPITAL_LETTER_I
     4A:LATIN_CAPITAL_LETTER_J 4B:LATIN_CAPITAL_LETTER_K 4C:LATIN_CAPITAL_LETTER_L
     4D:LATIN_CAPITAL_LETTER_M 4E:LATIN_CAPITAL_LETTER_N 4F:LATIN_CAPITAL_LETTER_O
     50:LATIN_CAPITAL_LETTER_P 51:LATIN_CAPITAL_LETTER_Q 52:LATIN_CAPITAL_LETTER_R
     53:LATIN_CAPITAL_LETTER_S 54:LATIN_CAPITAL_LETTER_T 55:LATIN_CAPITAL_LETTER_U
     56:LATIN_CAPITAL_LETTER_V 57:LATIN_CAPITAL_LETTER_W 58:LATIN_CAPITAL_LETTER_X
     59:LATIN_CAPITAL_LETTER_Y 5A:LATIN_CAPITAL_LETTER_Z 5B:LEFT_SQUARE_BRACKET
     5C:REVERSE_SOLIDUS 5D:RIGHT_SQUARE_BRACKET 5E:CIRCUMFLEX_ACCENT 5F:LOW_LINE 60:GRAVE_ACCENT
     61:LATIN_SMALL_LETTER_A 62:LATIN_SMALL_LETTER_B 63:LATIN_SMALL_LETTER_C
     64:LATIN_SMALL_LETTER_D 65:LATIN_SMALL_LETTER_E 66:LATIN_SMALL_LETTER_F
     67:LATIN_SMALL_LETTER_G 68:LATIN_SMALL_LETTER_H 69:LATIN_SMALL_LETTER_I
     6A:LATIN_SMALL_LETTER_J 6B:LATIN_SMALL_LETTER_K 6C:LATIN_SMALL_LETTER_L
     6D:LATIN_SMALL_LETTER_M 6E:LATIN_SMALL_LETTER_N 6F:LATIN_SMALL_LETTER_O
     70:LATIN_SMALL_LETTER_P 71:LATIN_SMALL_LETTER_Q 72:LATIN_SMALL_LETTER_R
     73:LATIN_SMALL_LETTER_S 74:LATIN_SMALL_LETTER_T 75:LATIN_SMALL_LETTER_U
     76:LATIN_SMALL_LETTER_V 77:LATIN_SMALL_LETTER_W 78:LATIN_SMALL_LETTER_X
     79:LATIN_SMALL_LETTER_Y 7A:LATIN_SMALL_LETTER_Z 7B:LEFT_CURLY_BRACKET 7C:VERTICAL_LINE
     7D:RIGHT_CURLY_BRACKET 7E:TILDE A0:NO-BREAK_SPACE A1:INVERTED_EXCLAMATION_MARK A2:CENT_SIGN
     A3:POUND_SIGN A4:CURRENCY_SIGN A5:YEN_SIGN A6:BROKEN_BAR A7:SECTION_SIGN A8:DIAERESIS
     A9:COPYRIGHT_SIGN AA:FEMININE_ORDINAL_INDICATOR
     AB:LEFT-POINTING_DOUBLE_ANGLE_QUOTATION_MARK AC:NOT_SIGN AD:SOFT_HYPHEN AE:REGISTERED_SIGN
     AF:MACRON B0:DEGREE_SIGN B1:PLUS-MINUS_SIGN B2:SUPERSCRIPT_TWO B3:SUPERSCRIPT_THREE
     B4:ACUTE_ACCENT B5:MICRO_SIGN B6:PILCROW_SIGN B7:MIDDLE_DOT B8:CEDILLA B9:SUPERSCRIPT_ONE
     BA:MASCULINE_ORDINAL_INDICATOR BB:RIGHT-POINTING_DOUBLE_ANGLE_QUOTATION_MARK
     BC:VULGAR_FRACTION_ONE_QUARTER BD:VULGAR_FRACTION_ONE_HALF
     BE:VULGAR_FRACTION_THREE_QUARTERS BF:INVERTED_QUESTION_MARK
     C0:LATIN_CAPITAL_LETTER_A_WITH_GRAVE C1:LATIN_CAPITAL_LETTER_A_WITH_ACUTE
     C2:LATIN_CAPITAL_LETTER_A_WITH_CIRCUMFLEX C3:LATIN_CAPITAL_LETTER_A_WITH_TILDE
     C4:LATIN_CAPITAL_LETTER_A_WITH_DIAERESIS C5:LATIN_CAPITAL_LETTER_A_WITH_RING_ABOVE
     C6:LATIN_CAPITAL_LETTER_AE C7:LATIN_CAPITAL_LETTER_C_WITH_CEDILLA
     C8:LATIN_CAPITAL_LETTER_E_WITH_GRAVE C9:LATIN_CAPITAL_LETTER_E_WITH_ACUTE
     CA:LATIN_CAPITAL_LETTER_E_WITH_CIRCUMFLEX CB:LATIN_CAPITAL_LETTER_E_WITH_DIAERESIS
     CC:LATIN_CAPITAL_LETTER_I_WITH_GRAVE CD:LATIN_CAPITAL_LETTER_I_WITH_ACUTE
     CE:LATIN_CAPITAL_LETTER_I_WITH_CIRCUMFLEX CF:LATIN_CAPITAL_LETTER_I_WITH_DIAERESIS
     D0:LATIN_CAPITAL_LETTER_ETH D1:LATIN_CAPITAL_LETTER_N_WITH_TILDE
     D2:LATIN_CAPITAL_LETTER_O_WITH_GRAVE D3:LATIN_CAPITAL_LETTER_O_WITH_ACUTE
     D4:LATIN_CAPITAL_LETTER_O_WITH_CIRCUMFLEX D5:LATIN_CAPITAL_LETTER_O_WITH_TILDE
     D6:LATIN_CAPITAL_LETTER_O_WITH_DIAERESIS D7:MULTIPLICATION_SIGN
     D8:LATIN_CAPITAL_LETTER_O_WITH_STROKE D9:LATIN_CAPITAL_LETTER_U_WITH_GRAVE
     DA:LATIN_CAPITAL_LETTER_U_WITH_ACUTE DB:LATIN_CAPITAL_LETTER_U_WITH_CIRCUMFLEX
     DC:LATIN_CAPITAL_LETTER_U_WITH_DIAERESIS DD:LATIN_CAPITAL_LETTER_Y_WITH_ACUTE
     DE:LATIN_CAPITAL_LETTER_THORN DF:LATIN_SMALL_LETTER_SHARP_S
     E0:LATIN_SMALL_LETTER_A_WITH_GRAVE E1:LATIN_SMALL_LETTER_A_WITH_ACUTE
     E2:LATIN_SMALL_LETTER_A_WITH_CIRCUMFLEX E3:LATIN_SMALL_LETTER_A_WITH_TILDE
     E4:LATIN_SMALL_LETTER_A_WITH_DIAERESIS E5:LATIN_SMALL_LETTER_A_WITH_RING_ABOVE
     E6:LATIN_SMALL_LETTER_AE E7:LATIN_SMALL_LETTER_C_WITH_CEDILLA
     E8:LATIN_SMALL_LETTER_E_WITH_GRAVE E9:LATIN_SMALL_LETTER_E_WITH_ACUTE
     EA:LATIN_SMALL_LETTER_E_WITH_CIRCUMFLEX EB:LATIN_SMALL_LETTER_E_WITH_DIAERESIS
     EC:LATIN_SMALL_LETTER_I_WITH_GRAVE ED:LATIN_SMALL_LETTER_I_WITH_ACUTE
     EE:LATIN_SMALL_LETTER_I_WITH_CIRCUMFLEX EF:LATIN_SMALL_LETTER_I_WITH_DIAERESIS
     F0:LATIN_SMALL_LETTER_ETH F1:LATIN_SMALL_LETTER_N_WITH_TILDE
     F2:LATIN_SMALL_LETTER_O_WITH_GRAVE F3:LATIN_SMALL_LETTER_O_WITH_ACUTE
     F4:LATIN_SMALL_LETTER_O_WITH_CIRCUMFLEX F5:LATIN_SMALL_LETTER_O_WITH_TILDE
     F6:LATIN_SMALL_LETTER_O_WITH_DIAERESIS F7:DIVISION_SIGN F8:LATIN_SMALL_LETTER_O_WITH_STROKE
     F9:LATIN_SMALL_LETTER_U_WITH_GRAVE FA:LATIN_SMALL_LETTER_U_WITH_ACUTE
     FB:LATIN_SMALL_LETTER_U_WITH_CIRCUMFLEX FC:LATIN_SMALL_LETTER_U_WITH_DIAERESIS
     FD:LATIN_SMALL_LETTER_Y_WITH_ACUTE FE:LATIN_SMALL_LETTER_THORN
     FF:LATIN_SMALL_LETTER_Y_WITH_DIAERESIS 100:LATIN_CAPITAL_LETTER_A_WITH_MACRON
     101:LATIN_SMALL_LETTER_A_WITH_MACRON 102:LATIN_CAPITAL_LETTER_A_WITH_BREVE
     103:LATIN_SMALL_LETTER_A_WITH_BREVE 104:LATIN_CAPITAL_LETTER_A_WITH_OGONEK
     105:LATIN_SMALL_LETTER_A_WITH_OGONEK 106:LATIN_CAPITAL_LETTER_C_WITH_ACUTE
     107:LATIN_SMALL_LETTER_C_WITH_ACUTE 108:LATIN_CAPITAL_LETTER_C_WITH_CIRCUMFLEX
     109:LATIN_SMALL_LETTER_C_WITH_CIRCUMFLEX 10A:LATIN_CAPITAL_LETTER_C_WITH_DOT_ABOVE
     10B:LATIN_SMALL_LETTER_C_WITH_DOT_ABOVE 10C:LATIN_CAPITAL_LETTER_C_WITH_CARON
     10D:LATIN_SMALL_LETTER_C_WITH_CARON 10E:LATIN_CAPITAL_LETTER_D_WITH_CARON
     10F:LATIN_SMALL_LETTER_D_WITH_CARON 110:LATIN_CAPITAL_LETTER_D_WITH_STROKE
     111:LATIN_SMALL_LETTER_D_WITH_STROKE 112:LATIN_CAPITAL_LETTER_E_WITH_MACRON
     113:LATIN_SMALL_LETTER_E_WITH_MACRON 114:LATIN_CAPITAL_LETTER_E_WITH_BREVE
     115:LATIN_SMALL_LETTER_E_WITH_BREVE 116:LATIN_CAPITAL_LETTER_E_WITH_DOT_ABOVE
     117:LATIN_SMALL_LETTER_E_WITH_DOT_ABOVE 118:LATIN_CAPITAL_LETTER_E_WITH_OGONEK
     119:LATIN_SMALL_LETTER_E_WITH_OGONEK 11A:LATIN_CAPITAL_LETTER_E_WITH_CARON
     11B:LATIN_SMALL_LETTER_E_WITH_CARON 11C:LATIN_CAPITAL_LETTER_G_WITH_CIRCUMFLEX
     11D:LATIN_SMALL_LETTER_G_WITH_CIRCUMFLEX 11E:LATIN_CAPITAL_LETTER_G_WITH_BREVE
     11F:LATIN_SMALL_LETTER_G_WITH_BREVE 120:LATIN_CAPITAL_LETTER_G_WITH_DOT_ABOVE
     121:LATIN_SMALL_LETTER_G_WITH_DOT_ABOVE 122:LATIN_CAPITAL_LETTER_G_WITH_CEDILLA
     123:LATIN_SMALL_LETTER_G_WITH_CEDILLA 124:LATIN_CAPITAL_LETTER_H_WITH_CIRCUMFLEX
     125:LATIN_SMALL_LETTER_H_WITH_CIRCUMFLEX 126:LATIN_CAPITAL_LETTER_H_WITH_STROKE
     127:LATIN_SMALL_LETTER_H_WITH_STROKE 128:LATIN_CAPITAL_LETTER_I_WITH_TILDE
     129:LATIN_SMALL_LETTER_I_WITH_TILDE 12A:LATIN_CAPITAL_LETTER_I_WITH_MACRON
     12B:LATIN_SMALL_LETTER_I_WITH_MACRON 12C:LATIN_CAPITAL_LETTER_I_WITH_BREVE
     12D:LATIN_SMALL_LETTER_I_WITH_BREVE 12E:LATIN_CAPITAL_LETTER_I_WITH_OGONEK
     12F:LATIN_SMALL_LETTER_I_WITH_OGONEK 130:LATIN_CAPITAL_LETTER_I_WITH_DOT_ABOVE
     131:LATIN_SMALL_LETTER_DOTLESS_I 132:LATIN_CAPITAL_LIGATURE_IJ 133:LATIN_SMALL_LIGATURE_IJ
     134:LATIN_CAPITAL_LETTER_J_WITH_CIRCUMFLEX 135:LATIN_SMALL_LETTER_J_WITH_CIRCUMFLEX
     136:LATIN_CAPITAL_LETTER_K_WITH_CEDILLA 137:LATIN_SMALL_LETTER_K_WITH_CEDILLA
     138:LATIN_SMALL_LETTER_KRA 139:LATIN_CAPITAL_LETTER_L_WITH_ACUTE
     13A:LATIN_SMALL_LETTER_L_WITH_ACUTE 13B:LATIN_CAPITAL_LETTER_L_WITH_CEDILLA
     13C:LATIN_SMALL_LETTER_L_WITH_CEDILLA 13D:LATIN_CAPITAL_LETTER_L_WITH_CARON
     13E:LATIN_SMALL_LETTER_L_WITH_CARON 13F:LATIN_CAPITAL_LETTER_L_WITH_MIDDLE_DOT
     140:LATIN_SMALL_LETTER_L_WITH_MIDDLE_DOT 141:LATIN_CAPITAL_LETTER_L_WITH_STROKE
     142:LATIN_SMALL_LETTER_L_WITH_STROKE 143:LATIN_CAPITAL_LETTER_N_WITH_ACUTE
     144:LATIN_SMALL_LETTER_N_WITH_ACUTE 145:LATIN_CAPITAL_LETTER_N_WITH_CEDILLA
     146:LATIN_SMALL_LETTER_N_WITH_CEDILLA 147:LATIN_CAPITAL_LETTER_N_WITH_CARON
     148:LATIN_SMALL_LETTER_N_WITH_CARON 149:LATIN_SMALL_LETTER_N_PRECEDED_BY_APOSTROPHE
     14A:LATIN_CAPITAL_LETTER_ENG 14B:LATIN_SMALL_LETTER_ENG
     14C:LATIN_CAPITAL_LETTER_O_WITH_MACRON 14D:LATIN_SMALL_LETTER_O_WITH_MACRON
     14E:LATIN_CAPITAL_LETTER_O_WITH_BREVE 14F:LATIN_SMALL_LETTER_O_WITH_BREVE
     150:LATIN_CAPITAL_LETTER_O_WITH_DOUBLE_ACUTE 151:LATIN_SMALL_LETTER_O_WITH_DOUBLE_ACUTE
     152:LATIN_CAPITAL_LIGATURE_OE 153:LATIN_SMALL_LIGATURE_OE
     154:LATIN_CAPITAL_LETTER_R_WITH_ACUTE 155:LATIN_SMALL_LETTER_R_WITH_ACUTE
     156:LATIN_CAPITAL_LETTER_R_WITH_CEDILLA 157:LATIN_SMALL_LETTER_R_WITH_CEDILLA
     158:LATIN_CAPITAL_LETTER_R_WITH_CARON 159:LATIN_SMALL_LETTER_R_WITH_CARON
     15A:LATIN_CAPITAL_LETTER_S_WITH_ACUTE 15B:LATIN_SMALL_LETTER_S_WITH_ACUTE
     15C:LATIN_CAPITAL_LETTER_S_WITH_CIRCUMFLEX 15D:LATIN_SMALL_LETTER_S_WITH_CIRCUMFLEX
     15E:LATIN_CAPITAL_LETTER_S_WITH_CEDILLA 15F:LATIN_SMALL_LETTER_S_WITH_CEDILLA
     160:LATIN_CAPITAL_LETTER_S_WITH_CARON 161:LATIN_SMALL_LETTER_S_WITH_CARON
     162:LATIN_CAPITAL_LETTER_T_WITH_CEDILLA 163:LATIN_SMALL_LETTER_T_WITH_CEDILLA
     164:LATIN_CAPITAL_LETTER_T_WITH_CARON 165:LATIN_SMALL_LETTER_T_WITH_CARON
     166:LATIN_CAPITAL_LETTER_T_WITH_STROKE 167:LATIN_SMALL_LETTER_T_WITH_STROKE
     168:LATIN_CAPITAL_LETTER_U_WITH_TILDE 169:LATIN_SMALL_LETTER_U_WITH_TILDE
     16A:LATIN_CAPITAL_LETTER_U_WITH_MACRON 16B:LATIN_SMALL_LETTER_U_WITH_MACRON
     16C:LATIN_CAPITAL_LETTER_U_WITH_BREVE 16D:LATIN_SMALL_LETTER_U_WITH_BREVE
     16E:LATIN_CAPITAL_LETTER_U_WITH_RING_ABOVE 16F:LATIN_SMALL_LETTER_U_WITH_RING_ABOVE
     170:LATIN_CAPITAL_LETTER_U_WITH_DOUBLE_ACUTE 171:LATIN_SMALL_LETTER_U_WITH_DOUBLE_ACUTE
     172:LATIN_CAPITAL_LETTER_U_WITH_OGONEK 173:LATIN_SMALL_LETTER_U_WITH_OGONEK
     174:LATIN_CAPITAL_LETTER_W_WITH_CIRCUMFLEX 175:LATIN_SMALL_LETTER_W_WITH_CIRCUMFLEX
     176:LATIN_CAPITAL_LETTER_Y_WITH_CIRCUMFLEX 177:LATIN_SMALL_LETTER_Y_WITH_CIRCUMFLEX
     178:LATIN_CAPITAL_LETTER_Y_WITH_DIAERESIS 179:LATIN_CAPITAL_LETTER_Z_WITH_ACUTE
     17A:LATIN_SMALL_LETTER_Z_WITH_ACUTE 17B:LATIN_CAPITAL_LETTER_Z_WITH_DOT_ABOVE
     17C:LATIN_SMALL_LETTER_Z_WITH_DOT_ABOVE 17D:LATIN_CAPITAL_LETTER_Z_WITH_CARON
     17E:LATIN_SMALL_LETTER_Z_WITH_CARON 17F:LATIN_SMALL_LETTER_LONG_S
     391:GREEK_CAPITAL_LETTER_ALPHA 392:GREEK_CAPITAL_LETTER_BETA 393:GREEK_CAPITAL_LETTER_GAMMA
     394:GREEK_CAPITAL_LETTER_DELTA 395:GREEK_CAPITAL_LETTER_EPSILON
     396:GREEK_CAPITAL_LETTER_ZETA 397:GREEK_CAPITAL_LETTER_ETA 398:GREEK_CAPITAL_LETTER_THETA
     399:GREEK_CAPITAL_LETTER_IOTA 39A:GREEK_CAPITAL_LETTER_KAPPA 39B:GREEK_CAPITAL_LETTER_LAMDA
     39C:GREEK_CAPITAL_LETTER_MU 39D:GREEK_CAPITAL_LETTER_NU 39E:GREEK_CAPITAL_LETTER_XI
     39F:GREEK_CAPITAL_LETTER_OMICRON 3A0:GREEK_CAPITAL_LETTER_PI 3A1:GREEK_CAPITAL_LETTER_RHO
     3A3:GREEK_CAPITAL_LETTER_SIGMA 3A4:GREEK_CAPITAL_LETTER_TAU
     3A5:GREEK_CAPITAL_LETTER_UPSILON 3A6:GREEK_CAPITAL_LETTER_PHI 3A7:GREEK_CAPITAL_LETTER_CHI
     3A8:GREEK_CAPITAL_LETTER_PSI 3A9:GREEK_CAPITAL_LETTER_OMEGA
     3AA:GREEK_CAPITAL_LETTER_IOTA_WITH_DIALYTIKA
     3AB:GREEK_CAPITAL_LETTER_UPSILON_WITH_DIALYTIKA 3AC:GREEK_SMALL_LETTER_ALPHA_WITH_TONOS
     3AD:GREEK_SMALL_LETTER_EPSILON_WITH_TONOS 3AE:GREEK_SMALL_LETTER_ETA_WITH_TONOS
     3AF:GREEK_SMALL_LETTER_IOTA_WITH_TONOS
     3B0:GREEK_SMALL_LETTER_UPSILON_WITH_DIALYTIKA_AND_TONOS 3B1:GREEK_SMALL_LETTER_ALPHA
     3B2:GREEK_SMALL_LETTER_BETA 3B3:GREEK_SMALL_LETTER_GAMMA 3B4:GREEK_SMALL_LETTER_DELTA
     3B5:GREEK_SMALL_LETTER_EPSILON 3B6:GREEK_SMALL_LETTER_ZETA 3B7:GREEK_SMALL_LETTER_ETA
     3B8:GREEK_SMALL_LETTER_THETA 3B9:GREEK_SMALL_LETTER_IOTA 3BA:GREEK_SMALL_LETTER_KAPPA
     3BB:GREEK_SMALL_LETTER_LAMDA 3BC:GREEK_SMALL_LETTER_MU 3BD:GREEK_SMALL_LETTER_NU
     3BE:GREEK_SMALL_LETTER_XI 3BF:GREEK_SMALL_LETTER_OMICRON 3C0:GREEK_SMALL_LETTER_PI
     3C1:GREEK_SMALL_LETTER_RHO 3C2:GREEK_SMALL_LETTER_FINAL_SIGMA 3C3:GREEK_SMALL_LETTER_SIGMA
     3C4:GREEK_SMALL_LETTER_TAU 3C5:GREEK_SMALL_LETTER_UPSILON 3C6:GREEK_SMALL_LETTER_PHI
     3C7:GREEK_SMALL_LETTER_CHI 3C8:GREEK_SMALL_LETTER_PSI 3C9:GREEK_SMALL_LETTER_OMEGA
     410:CYRILLIC_CAPITAL_LETTER_A 411:CYRILLIC_CAPITAL_LETTER_BE 412:CYRILLIC_CAPITAL_LETTER_VE
     413:CYRILLIC_CAPITAL_LETTER_GHE 414:CYRILLIC_CAPITAL_LETTER_DE
     415:CYRILLIC_CAPITAL_LETTER_IE 416:CYRILLIC_CAPITAL_LETTER_ZHE
     417:CYRILLIC_CAPITAL_LETTER_ZE 418:CYRILLIC_CAPITAL_LETTER_I
     419:CYRILLIC_CAPITAL_LETTER_SHORT_I 41A:CYRILLIC_CAPITAL_LETTER_KA
     41B:CYRILLIC_CAPITAL_LETTER_EL 41C:CYRILLIC_CAPITAL_LETTER_EM
     41D:CYRILLIC_CAPITAL_LETTER_EN 41E:CYRILLIC_CAPITAL_LETTER_O 41F:CYRILLIC_CAPITAL_LETTER_PE
     420:CYRILLIC_CAPITAL_LETTER_ER 421:CYRILLIC_CAPITAL_LETTER_ES
     422:CYRILLIC_CAPITAL_LETTER_TE 423:CYRILLIC_CAPITAL_LETTER_U 424:CYRILLIC_CAPITAL_LETTER_EF
     425:CYRILLIC_CAPITAL_LETTER_HA 426:CYRILLIC_CAPITAL_LETTER_TSE
     427:CYRILLIC_CAPITAL_LETTER_CHE 428:CYRILLIC_CAPITAL_LETTER_SHA
     429:CYRILLIC_CAPITAL_LETTER_SHCHA 42A:CYRILLIC_CAPITAL_LETTER_HARD_SIGN
     42B:CYRILLIC_CAPITAL_LETTER_YERU 42C:CYRILLIC_CAPITAL_LETTER_SOFT_SIGN
     42D:CYRILLIC_CAPITAL_LETTER_E 42E:CYRILLIC_CAPITAL_LETTER_YU 42F:CYRILLIC_CAPITAL_LETTER_YA
     430:CYRILLIC_SMALL_LETTER_A 431:CYRILLIC_SMALL_LETTER_BE 432:CYRILLIC_SMALL_LETTER_VE
     433:CYRILLIC_SMALL_LETTER_GHE 434:CYRILLIC_SMALL_LETTER_DE 435:CYRILLIC_SMALL_LETTER_IE
     436:CYRILLIC_SMALL_LETTER_ZHE 437:CYRILLIC_SMALL_LETTER_ZE 438:CYRILLIC_SMALL_LETTER_I
     439:CYRILLIC_SMALL_LETTER_SHORT_I 43A:CYRILLIC_SMALL_LETTER_KA 43B:CYRILLIC_SMALL_LETTER_EL
     43C:CYRILLIC_SMALL_LETTER_EM 43D:CYRILLIC_SMALL_LETTER_EN 43E:CYRILLIC_SMALL_LETTER_O
     43F:CYRILLIC_SMALL_LETTER_PE 440:CYRILLIC_SMALL_LETTER_ER 441:CYRILLIC_SMALL_LETTER_ES
     442:CYRILLIC_SMALL_LETTER_TE 443:CYRILLIC_SMALL_LETTER_U 444:CYRILLIC_SMALL_LETTER_EF
     445:CYRILLIC_SMALL_LETTER_HA 446:CYRILLIC_SMALL_LETTER_TSE 447:CYRILLIC_SMALL_LETTER_CHE
     448:CYRILLIC_SMALL_LETTER_SHA 449:CYRILLIC_SMALL_LETTER_SHCHA
     44A:CYRILLIC_SMALL_LETTER_HARD_SIGN 44B:CYRILLIC_SMALL_LETTER_YERU
     44C:CYRILLIC_SMALL_LETTER_SOFT_SIGN 44D:CYRILLIC_SMALL_LETTER_E
     44E:CYRILLIC_SMALL_LETTER_YU 44F:CYRILLIC_SMALL_LETTER_YA 2013:EN_DASH 2014:EM_DASH
     2018:LEFT_SINGLE_QUOTATION_MARK 2019:RIGHT_SINGLE_QUOTATION_MARK
     201C:LEFT_DOUBLE_QUOTATION_MARK 201D:RIGHT_DOUBLE_QUOTATION_MARK 2020:DAGGER 2022:BULLET
     2026:HORIZONTAL_ELLIPSIS 20AC:EURO_SIGN 2122:TRADE_MARK_SIGN 212A:KELVIN_SIGN
     1E9E:LATIN_CAPITAL_LETTER_SHARP_S 1F600:GRINNING_FACE"

/-- The code point of a name, written in either case. -/
def codeNamed? (name : List Char) : Option Nat :=
  let wanted := name.map Char.toUpper
  (characterNames.find? (fun e => e.2 == wanted)).map Prod.fst

end SqlRegexp.Unicode
