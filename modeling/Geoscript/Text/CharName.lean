import Geoscript.Text.Trait

/-! The names of the characters up to 255, of Greek and Cyrillic letters, and of unified ideographs, which are named by
their code points. Controls go by their aliases. -/

namespace Geoscript.Text

/-- Names of neighbouring characters: the code point of the first, how all of them begin, and how they go on. -/
abbrev NameRow := Nat × String × String

/-- Capital letters, and the small ones 32 places behind them. -/
def letterRows (first : Nat) (writing names : String) : List NameRow := [
  (first, writing ++ " CAPITAL LETTER ", names), (first + 32, writing ++ " SMALL LETTER ", names)]

def nameRows : List NameRow :=
  letterRows 0x41 "LATIN" "A;B;C;D;E;F;G;H;I;J;K;L;M;N;O;P;Q;R;S;T;U;V;W;X;Y;Z" ++
  letterRows 0xC0 "LATIN" "A WITH GRAVE;A WITH ACUTE;A WITH CIRCUMFLEX;A WITH TILDE;A WITH DIAERESIS;
A WITH RING ABOVE;AE;C WITH CEDILLA;E WITH GRAVE;E WITH ACUTE;E WITH CIRCUMFLEX;E WITH DIAERESIS;I WITH GRAVE;
I WITH ACUTE;I WITH CIRCUMFLEX;I WITH DIAERESIS;ETH;N WITH TILDE;O WITH GRAVE;O WITH ACUTE;O WITH CIRCUMFLEX;
O WITH TILDE;O WITH DIAERESIS" ++
  letterRows 0xD8 "LATIN" "O WITH STROKE;U WITH GRAVE;U WITH ACUTE;U WITH CIRCUMFLEX;U WITH DIAERESIS;Y WITH ACUTE;
THORN" ++
  letterRows 0x391 "GREEK" "ALPHA;BETA;GAMMA;DELTA;EPSILON;ZETA;ETA;THETA;IOTA;KAPPA;LAMDA;MU;NU;XI;OMICRON;PI;RHO" ++
  letterRows 0x3A3 "GREEK" "SIGMA;TAU;UPSILON;PHI;CHI;PSI;OMEGA" ++
  letterRows 0x410 "CYRILLIC" "A;BE;VE;GHE;DE;IE;ZHE;ZE;I;SHORT I;KA;EL;EM;EN;O;PE;ER;ES;TE;U;EF;HA;TSE;CHE;SHA;
SHCHA;HARD SIGN;YERU;SOFT SIGN;E;YU;YA" ++ [
    (0x0, "", "NULL;START OF HEADING;START OF TEXT;END OF TEXT;END OF TRANSMISSION;ENQUIRY;ACKNOWLEDGE;ALERT;
BACKSPACE;CHARACTER TABULATION;LINE FEED;LINE TABULATION;FORM FEED;CARRIAGE RETURN;SHIFT OUT;SHIFT IN;
DATA LINK ESCAPE;DEVICE CONTROL ONE;DEVICE CONTROL TWO;DEVICE CONTROL THREE;DEVICE CONTROL FOUR;
NEGATIVE ACKNOWLEDGE;SYNCHRONOUS IDLE;END OF TRANSMISSION BLOCK;CANCEL;END OF MEDIUM;SUBSTITUTE;ESCAPE;
INFORMATION SEPARATOR FOUR;INFORMATION SEPARATOR THREE;INFORMATION SEPARATOR TWO;INFORMATION SEPARATOR ONE"),
    (0x0, "", "NUL;SOH;STX;ETX;EOT;ENQ;ACK;BEL;BS;HT;LF;VT;FF;CR;SO;SI;DLE;DC1;DC2;DC3;DC4;NAK;SYN;ETB;CAN;EOM;SUB;
ESC;FS;GS;RS;US"),
    (0x9, "", "HORIZONTAL TABULATION;NEW LINE;VERTICAL TABULATION"),
    (0x9, "", "TAB;NL"), (0xA, "", "END OF LINE"), (0xA, "", "EOL"), (0xE, "LOCKING-SHIFT ", "ONE;ZERO"),
    (0x1C, "", "FILE SEPARATOR;GROUP SEPARATOR;RECORD SEPARATOR;UNIT SEPARATOR"),
    (0x7F, "", "DELETE"), (0x7F, "", "DEL"), (0x85, "", "NEXT LINE"), (0x85, "", "NEL"), (0xA0, "", "NBSP"),
    (0x20, "", "SPACE;EXCLAMATION MARK;QUOTATION MARK;NUMBER SIGN;DOLLAR SIGN;PERCENT SIGN;AMPERSAND;APOSTROPHE;
LEFT PARENTHESIS;RIGHT PARENTHESIS;ASTERISK;PLUS SIGN;COMMA;HYPHEN-MINUS;FULL STOP;SOLIDUS"),
    (0x30, "DIGIT ", "ZERO;ONE;TWO;THREE;FOUR;FIVE;SIX;SEVEN;EIGHT;NINE"),
    (0x3A, "", "COLON;SEMICOLON;LESS-THAN SIGN;EQUALS SIGN;GREATER-THAN SIGN;QUESTION MARK;COMMERCIAL AT"),
    (0x5B, "", "LEFT SQUARE BRACKET;REVERSE SOLIDUS;RIGHT SQUARE BRACKET;CIRCUMFLEX ACCENT;LOW LINE;GRAVE ACCENT"),
    (0x7B, "", "LEFT CURLY BRACKET;VERTICAL LINE;RIGHT CURLY BRACKET;TILDE"),
    (0xA0, "", "NO-BREAK SPACE;INVERTED EXCLAMATION MARK;CENT SIGN;POUND SIGN;CURRENCY SIGN;YEN SIGN;BROKEN BAR;
SECTION SIGN;DIAERESIS;COPYRIGHT SIGN;FEMININE ORDINAL INDICATOR;LEFT-POINTING DOUBLE ANGLE QUOTATION MARK;
NOT SIGN;SOFT HYPHEN;REGISTERED SIGN;MACRON;DEGREE SIGN;PLUS-MINUS SIGN;SUPERSCRIPT TWO;SUPERSCRIPT THREE;
ACUTE ACCENT;MICRO SIGN;PILCROW SIGN;MIDDLE DOT;CEDILLA;SUPERSCRIPT ONE;MASCULINE ORDINAL INDICATOR;
RIGHT-POINTING DOUBLE ANGLE QUOTATION MARK;VULGAR FRACTION ONE QUARTER;VULGAR FRACTION ONE HALF;
VULGAR FRACTION THREE QUARTERS;INVERTED QUESTION MARK"),
    (0xD7, "", "MULTIPLICATION SIGN"), (0xDF, "", "LATIN SMALL LETTER SHARP S"),
    (0xF7, "", "DIVISION SIGN"), (0xFF, "", "LATIN SMALL LETTER Y WITH DIAERESIS"),
    (0x3C2, "", "GREEK SMALL LETTER FINAL SIGMA"),
    (0x20AC, "", "EURO SIGN")]

def ideographNamed? (name : String) : Option Nat :=
  let lead := "CJK UNIFIED IDEOGRAPH-".toList
  let t := name.toList
  if lead.isPrefixOf t then
    let digits := t.drop lead.length
    let isHex (c : Char) : Bool := (Ranges.hexDigit? c).isSome
    if (digits.length == 4 || digits.length == 5) && digits.all isHex then
      let n := digits.foldl (fun n c => 16 * n + (Ranges.hexDigit? c).getD 0) 0
      if (traitNamed "Unified_Ideograph").has n then some n else none
    else none
  else none

/-- The code point of a character with a name. Capitals and small letters are alike. -/
def charNamed? (name : String) : Option Nat :=
  let name := String.ofList (name.toList.map Char.toUpper)
  let among : NameRow → Option Nat := fun (first, lead, names) =>
    ((((names.replace "\n" "").splitOn ";").map (lead ++ ·)).idxOf? name).map (first + ·)
  nameRows.findSome? among <|> ideographNamed? name

end Geoscript.Text
