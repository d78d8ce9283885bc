import BlockSync.Text.CharacterName.Block

namespace BlockSync.Text.CharacterName

/-!
# Names: Steppe

Characters from 1800 to 1CFF:
Mongolian and the scripts of Southeast Asia.
-/

/-- The names from 1800 to 1CFF. -/
def steppe : List Block := [
  ⟨0x1800, "MONGOLIAN ", [
    "BIRGA;ELLIPSIS;COMMA;FULL STOP;COLON;FOUR DOTS;TODO SOFT HYPHEN",
    "SIBE SYLLABLE BOUNDARY MARKER;MANCHU COMMA;MANCHU FULL STOP;NIRUGU",
    "FREE VARIATION SELECTOR ONE;FREE VARIATION SELECTOR TWO;FREE VARIATION SELECTOR THREE",
    "VOWEL SEPARATOR;FREE VARIATION SELECTOR FOUR"]⟩,
  ⟨0x1810, "MONGOLIAN DIGIT ", ["ZERO;ONE;TWO;THREE;FOUR;FIVE;SIX;SEVEN;EIGHT;NINE"]⟩,
  ⟨0x1820, "MONGOLIAN LETTER ", [
    "A;E;I;O;U;OE;UE;EE;NA;ANG;BA;PA;QA;GA;MA;LA;SA;SHA;TA;DA;CHA;JA;YA;RA;WA;FA;KA;KHA;TSA;ZA",
    "HAA;ZRA;LHA;ZHI;CHI"]⟩,
  ⟨0x1843, "MONGOLIAN LETTER TODO ", [
    "LONG VOWEL SIGN;E;I;O;U;OE;UE;ANG;BA;PA;QA;GA;MA;TA;DA;CHA;JA;TSA;YA;WA;KA;GAA;HAA;JIA;NIA",
    "DZA"]⟩,
  ⟨0x185D, "MONGOLIAN LETTER SIBE ", [
    "E;I;IY;UE;U;ANG;KA;GA;HA;PA;SHA;TA;DA;JA;FA;GAA;HAA;TSA;ZA;RAA;CHA;ZHA"]⟩,
  ⟨0x1873, "MONGOLIAN LETTER ", [
    "MANCHU I;MANCHU KA;MANCHU RA;MANCHU FA;MANCHU ZHA;CHA WITH TWO DOTS"]⟩,
  ⟨0x1880, "MONGOLIAN LETTER ALI GALI ", [
    "ANUSVARA ONE;VISARGA ONE;DAMARU;UBADAMA;INVERTED UBADAMA;BALUDA;THREE BALUDA;A;I;KA;NGA;CA",
    "TTA;TTHA;DDA;NNA;TA;DA;PA;PHA;SSA;ZHA;ZA;AH"]⟩,
  ⟨0x1898, "MONGOLIAN LETTER TODO ALI GALI ", ["TA;ZHA"]⟩,
  ⟨0x189A, "MONGOLIAN LETTER MANCHU ALI GALI ", ["GHA;NGA;CA;JHA;TTA;DDHA;TA;DHA;SSA;CYA;ZHA;ZA"]⟩,
  ⟨0x18A6, "MONGOLIAN LETTER ", [
    "ALI GALI HALF U;ALI GALI HALF YA;MANCHU ALI GALI BHA;ALI GALI DAGALGA;MANCHU ALI GALI LHA"]⟩,
  ⟨0x18B0, "CANADIAN SYLLABICS ", [
    "OY;AY;AAY;WAY;POY;PAY;PWOY;TAY;KAY;KWAY;MAY;NOY;NAY;LAY;SOY;SAY;SHOY;SHAY;SHWOY;YOY;YAY;RAY",
    "NWI;OJIBWAY NWI;NWII;OJIBWAY NWII;NWO;OJIBWAY NWO;NWOO;OJIBWAY NWOO;RWEE;RWI;RWII;RWO;RWOO",
    "RWA;OJIBWAY P;OJIBWAY T;OJIBWAY K;OJIBWAY C;OJIBWAY M;OJIBWAY N;OJIBWAY S;OJIBWAY SH",
    "EASTERN W;WESTERN W;FINAL SMALL RING;FINAL RAISED DOT;R-CREE RWE;WEST-CREE LOO",
    "WEST-CREE LAA;THWE;THWA;TTHWE;TTHOO;TTHAA;TLHWE;TLHOO;SAYISI SHWE;SAYISI SHOO;SAYISI HOO",
    "CARRIER GWU;CARRIER DENE GEE;CARRIER GAA;CARRIER GWA;SAYISI JUU;CARRIER JWA;BEAVER DENE L",
    "BEAVER DENE R;CARRIER DENTAL S"]⟩,
  ⟨0x1900, "", ["LIMBU VOWEL-CARRIER LETTER"]⟩,
  ⟨0x1901, "LIMBU LETTER ", [
    "KA;KHA;GA;GHA;NGA;CA;CHA;JA;JHA;YAN;TA;THA;DA;DHA;NA;PA;PHA;BA;BHA;MA;YA;RA;LA;WA;SHA;SSA",
    "SA;HA;GYAN;TRA"]⟩,
  ⟨0x1920, "LIMBU VOWEL SIGN ", ["A;I;U;EE;AI;OO;AU;E;O"]⟩,
  ⟨0x1929, "LIMBU SUBJOINED LETTER ", ["YA;RA;WA"]⟩,
  ⟨0x1930, "LIMBU SMALL LETTER ", ["KA;NGA;ANUSVARA;TA;NA;PA;MA;RA;LA"]⟩,
  ⟨0x1939, "LIMBU SIGN ", ["MUKPHRENG;KEMPHRENG;SA-I"]⟩,
  ⟨0x1940, "", ["LIMBU SIGN LOO"]⟩,
  ⟨0x1944, "LIMBU ", ["EXCLAMATION MARK;QUESTION MARK"]⟩,
  ⟨0x1946, "LIMBU DIGIT ", ["ZERO;ONE;TWO;THREE;FOUR;FIVE;SIX;SEVEN;EIGHT;NINE"]⟩,
  ⟨0x1950, "TAI LE LETTER ", [
    "KA;XA;NGA;TSA;SA;YA;TA;THA;LA;PA;PHA;MA;FA;VA;HA;QA;KHA;TSHA;NA;A;I;EE;EH;U;OO;O;UE;E;AUE",
    "AI"]⟩,
  ⟨0x1970, "TAI LE LETTER ", ["TONE-2;TONE-3;TONE-4;TONE-5;TONE-6"]⟩,
  ⟨0x1980, "NEW TAI LUE LETTER ", [
    "HIGH QA;LOW QA;HIGH KA;HIGH XA;HIGH NGA;LOW KA;LOW XA;LOW NGA;HIGH TSA;HIGH SA;HIGH YA",
    "LOW TSA;LOW SA;LOW YA;HIGH TA;HIGH THA;HIGH NA;LOW TA;LOW THA;LOW NA;HIGH PA;HIGH PHA",
    "HIGH MA;LOW PA;LOW PHA;LOW MA;HIGH FA;HIGH VA;HIGH LA;LOW FA;LOW VA;LOW LA;HIGH HA;HIGH DA",
    "HIGH BA;LOW HA;LOW DA;LOW BA;HIGH KVA;HIGH XVA;LOW KVA;LOW XVA;HIGH SUA;LOW SUA"]⟩,
  ⟨0x19B0, "NEW TAI LUE VOWEL SIGN ", [
    "VOWEL SHORTENER;AA;II;U;UU;E;AE;O;OA;UE;AY;AAY;UY;OY;OAY;UEY;IY"]⟩,
  ⟨0x19C1, "NEW TAI LUE LETTER FINAL ", ["V;NG;N;M;K;D;B"]⟩,
  ⟨0x19C8, "NEW TAI LUE TONE ", ["MARK-1;MARK-2"]⟩,
  ⟨0x19D0, "NEW TAI LUE DIGIT ", ["ZERO;ONE;TWO;THREE;FOUR;FIVE;SIX;SEVEN;EIGHT;NINE"]⟩,
  ⟨0x19DA, "", ["NEW TAI LUE THAM DIGIT ONE"]⟩,
  ⟨0x19DE, "NEW TAI LUE SIGN ", ["LAE;LAEV"]⟩,
  ⟨0x19E0, "KHMER SYMBOL ", [
    "PATHAMASAT;MUOY KOET;PII KOET;BEI KOET;BUON KOET;PRAM KOET;PRAM-MUOY KOET;PRAM-PII KOET",
    "PRAM-BEI KOET;PRAM-BUON KOET;DAP KOET;DAP-MUOY KOET;DAP-PII KOET;DAP-BEI KOET;DAP-BUON KOET",
    "DAP-PRAM KOET;TUTEYASAT;MUOY ROC;PII ROC;BEI ROC;BUON ROC;PRAM ROC;PRAM-MUOY ROC",
    "PRAM-PII ROC;PRAM-BEI ROC;PRAM-BUON ROC;DAP ROC;DAP-MUOY ROC;DAP-PII ROC;DAP-BEI ROC",
    "DAP-BUON ROC;DAP-PRAM ROC"]⟩,
  ⟨0x1A00, "BUGINESE LETTER ", [
    "KA;GA;NGA;NGKA;PA;BA;MA;MPA;TA;DA;NA;NRA;CA;JA;NYA;NYCA;YA;RA;LA;VA;SA;A;HA"]⟩,
  ⟨0x1A17, "BUGINESE VOWEL SIGN ", ["I;U;E;O;AE"]⟩,
  ⟨0x1A1E, "BUGINESE ", ["PALLAWA;END OF SECTION"]⟩,
  ⟨0x1A20, "TAI THAM LETTER ", [
    "HIGH KA;HIGH KHA;HIGH KXA;LOW KA;LOW KXA;LOW KHA;NGA;HIGH CA;HIGH CHA;LOW CA;LOW SA;LOW CHA",
    "NYA;RATA;HIGH RATHA;DA;LOW RATHA;RANA;HIGH TA;HIGH THA;LOW TA;LOW THA;NA;BA;HIGH PA",
    "HIGH PHA;HIGH FA;LOW PA;LOW FA;LOW PHA;MA;LOW YA;HIGH YA;RA;RUE;LA;LUE;WA;HIGH SHA;HIGH SSA",
    "HIGH SA;HIGH HA;LLA;A;LOW HA;I;II;U;UU;EE;OO;LAE;GREAT SA"]⟩,
  ⟨0x1A55, "TAI THAM CONSONANT SIGN ", ["MEDIAL RA;MEDIAL LA;LA TANG LAI"]⟩,
  ⟨0x1A58, "", ["TAI THAM SIGN MAI KANG LAI"]⟩,
  ⟨0x1A59, "TAI THAM CONSONANT SIGN ", ["FINAL NGA;LOW PA;HIGH RATHA OR LOW PA;MA;BA;SA"]⟩,
  ⟨0x1A60, "", ["TAI THAM SIGN SAKOT"]⟩,
  ⟨0x1A61, "TAI THAM VOWEL SIGN ", [
    "A;MAI SAT;AA;TALL AA;I;II;UE;UUE;U;UU;O;OA BELOW;OY;E;AE;OO;AI;THAM AI;OA ABOVE"]⟩,
  ⟨0x1A74, "TAI THAM SIGN ", [
    "MAI KANG;TONE-1;TONE-2;KHUEN TONE-3;KHUEN TONE-4;KHUEN TONE-5;RA HAAM;MAI SAM",
    "KHUEN-LUE KARAN"]⟩,
  ⟨0x1A7F, "", ["TAI THAM COMBINING CRYPTOGRAMMIC DOT"]⟩,
  ⟨0x1A80, "TAI THAM HORA DIGIT ", ["ZERO;ONE;TWO;THREE;FOUR;FIVE;SIX;SEVEN;EIGHT;NINE"]⟩,
  ⟨0x1A90, "TAI THAM THAM DIGIT ", ["ZERO;ONE;TWO;THREE;FOUR;FIVE;SIX;SEVEN;EIGHT;NINE"]⟩,
  ⟨0x1AA0, "TAI THAM SIGN ", [
    "WIANG;WIANGWAAK;SAWAN;KEOW;HOY;DOKMAI;REVERSED ROTATED RANA;MAI YAMOK;KAAN;KAANKUU;SATKAAN",
    "SATKAANKUU;HANG;CAANG"]⟩,
  ⟨0x1AB0, "COMBINING ", [
    "DOUBLED CIRCUMFLEX ACCENT;DIAERESIS-RING;INFINITY;DOWNWARDS ARROW;TRIPLE DOT;X-X BELOW",
    "WIGGLY LINE BELOW;OPEN MARK BELOW;DOUBLE OPEN MARK BELOW;LIGHT CENTRALIZATION STROKE BELOW",
    "STRONG CENTRALIZATION STROKE BELOW;PARENTHESES ABOVE;DOUBLE PARENTHESES ABOVE",
    "PARENTHESES BELOW;PARENTHESES OVERLAY;LATIN SMALL LETTER W BELOW",
    "LATIN SMALL LETTER TURNED W BELOW;LEFT PARENTHESIS ABOVE LEFT;RIGHT PARENTHESIS ABOVE RIGHT",
    "LEFT PARENTHESIS BELOW LEFT;RIGHT PARENTHESIS BELOW RIGHT;SQUARE BRACKETS ABOVE",
    "NUMBER SIGN ABOVE;INVERTED DOUBLE ARCH ABOVE;PLUS SIGN ABOVE;DOUBLE PLUS SIGN ABOVE",
    "DOUBLE PLUS SIGN BELOW;TRIPLE ACUTE ACCENT"]⟩,
  ⟨0x1ACC, "COMBINING LATIN SMALL LETTER INSULAR ", ["G;R;T"]⟩,
  ⟨0x1B00, "BALINESE SIGN ", ["ULU RICEM;ULU CANDRA;CECEK;SURANG;BISAH"]⟩,
  ⟨0x1B05, "BALINESE LETTER ", [
    "AKARA;AKARA TEDUNG;IKARA;IKARA TEDUNG;UKARA;UKARA TEDUNG;RA REPA;RA REPA TEDUNG;LA LENGA",
    "LA LENGA TEDUNG;EKARA;AIKARA;OKARA;OKARA TEDUNG;KA;KA MAHAPRANA;GA;GA GORA;NGA;CA;CA LACA",
    "JA;JA JERA;NYA;TA LATIK;TA MURDA MAHAPRANA;DA MURDA ALPAPRANA;DA MURDA MAHAPRANA;NA RAMBAT",
    "TA;TA TAWA;DA;DA MADU;NA;PA;PA KAPAL;BA;BA KEMBANG;MA;YA;RA;LA;WA;SA SAGA;SA SAPA;SA;HA"]⟩,
  ⟨0x1B34, "", ["BALINESE SIGN REREKAN"]⟩,
  ⟨0x1B35, "BALINESE VOWEL SIGN ", [
    "TEDUNG;ULU;ULU SARI;SUKU;SUKU ILUT;RA REPA;RA REPA TEDUNG;LA LENGA;LA LENGA TEDUNG;TALING",
    "TALING REPA;TALING TEDUNG;TALING REPA TEDUNG;PEPET;PEPET TEDUNG"]⟩,
  ⟨0x1B44, "", ["BALINESE ADEG ADEG"]⟩,
  ⟨0x1B45, "BALINESE LETTER ", [
    "KAF SASAK;KHOT SASAK;TZIR SASAK;EF SASAK;VE SASAK;ZAL SASAK;ASYURA SASAK;ARCHAIC JNYA"]⟩,
  ⟨0x1B50, "BALINESE DIGIT ", ["ZERO;ONE;TWO;THREE;FOUR;FIVE;SIX;SEVEN;EIGHT;NINE"]⟩,
  ⟨0x1B5A, "BALINESE ", ["PANTI;PAMADA;WINDU;CARIK PAMUNGKAH;CARIK SIKI;CARIK PAREREN;PAMENENG"]⟩,
  ⟨0x1B61, "BALINESE MUSICAL SYMBOL ", [
    "DONG;DENG;DUNG;DANG;DANG SURANG;DING;DAENG;DEUNG;DAING;DANG GEDE"]⟩,
  ⟨0x1B6B, "BALINESE MUSICAL SYMBOL COMBINING ", [
    "TEGEH;ENDEP;KEMPUL;KEMPLI;JEGOGAN;KEMPUL WITH JEGOGAN;KEMPLI WITH JEGOGAN;BENDE;GONG"]⟩,
  ⟨0x1B74, "BALINESE MUSICAL SYMBOL RIGHT-HAND ", ["OPEN DUG;OPEN DAG;CLOSED TUK;CLOSED TAK"]⟩,
  ⟨0x1B78, "BALINESE MUSICAL SYMBOL LEFT-HAND ", [
    "OPEN PANG;OPEN PUNG;CLOSED PLAK;CLOSED PLUK;OPEN PING"]⟩,
  ⟨0x1B7D, "BALINESE ", ["PANTI LANTANG;PAMADA LANTANG"]⟩,
  ⟨0x1B80, "SUNDANESE SIGN ", ["PANYECEK;PANGLAYAR;PANGWISAD"]⟩,
  ⟨0x1B83, "SUNDANESE LETTER ", [
    "A;I;U;AE;O;E;EU;KA;QA;GA;NGA;CA;JA;ZA;NYA;TA;DA;NA;PA;FA;VA;BA;MA;YA;RA;LA;WA;SA;XA;HA"]⟩,
  ⟨0x1BA1, "SUNDANESE CONSONANT SIGN ", ["PAMINGKAL;PANYAKRA;PANYIKU"]⟩,
  ⟨0x1BA4, "SUNDANESE VOWEL SIGN ", ["PANGHULU;PANYUKU;PANAELAENG;PANOLONG;PAMEPET;PANEULEUNG"]⟩,
  ⟨0x1BAA, "SUNDANESE ", [
    "SIGN PAMAAEH;SIGN VIRAMA;CONSONANT SIGN PASANGAN MA;CONSONANT SIGN PASANGAN WA;LETTER KHA",
    "LETTER SYA"]⟩,
  ⟨0x1BB0, "SUNDANESE DIGIT ", ["ZERO;ONE;TWO;THREE;FOUR;FIVE;SIX;SEVEN;EIGHT;NINE"]⟩,
  ⟨0x1BBA, "", ["SUNDANESE AVAGRAHA"]⟩,
  ⟨0x1BBB, "SUNDANESE LETTER ", ["REU;LEU;BHA;FINAL K;FINAL M"]⟩,
  ⟨0x1BC0, "BATAK LETTER ", [
    "A;SIMALUNGUN A;HA;SIMALUNGUN HA;MANDAILING HA;BA;KARO BA;PA;SIMALUNGUN PA;NA;MANDAILING NA",
    "WA;SIMALUNGUN WA;PAKPAK WA;GA;SIMALUNGUN GA;JA;DA;RA;SIMALUNGUN RA;MA;SIMALUNGUN MA",
    "SOUTHERN TA;NORTHERN TA;SA;SIMALUNGUN SA;MANDAILING SA;YA;SIMALUNGUN YA;NGA;LA",
    "SIMALUNGUN LA;NYA;CA;NDA;MBA;I;U"]⟩,
  ⟨0x1BE6, "", ["BATAK SIGN TOMPI"]⟩,
  ⟨0x1BE7, "BATAK VOWEL SIGN ", ["E;PAKPAK E;EE;I;KARO I;O;KARO O;U;U FOR SIMALUNGUN SA"]⟩,
  ⟨0x1BF0, "BATAK ", ["CONSONANT SIGN NG;CONSONANT SIGN H;PANGOLAT;PANONGONAN"]⟩,
  ⟨0x1BFC, "BATAK SYMBOL BINDU ", ["NA METEK;PINARBORAS;JUDUL;PANGOLAT"]⟩,
  ⟨0x1C00, "LEPCHA LETTER ", [
    "KA;KLA;KHA;GA;GLA;NGA;CA;CHA;JA;NYA;TA;THA;DA;NA;PA;PLA;PHA;FA;FLA;BA;BLA;MA;MLA;TSA;TSHA",
    "DZA;YA;RA;LA;HA;HLA;VA;SA;SHA;WA;A"]⟩,
  ⟨0x1C24, "LEPCHA SUBJOINED LETTER ", ["YA;RA"]⟩,
  ⟨0x1C26, "LEPCHA VOWEL SIGN ", ["AA;I;O;OO;U;UU;E"]⟩,
  ⟨0x1C2D, "LEPCHA CONSONANT SIGN ", ["K;M;L;N;P;R;T;NYIN-DO;KANG"]⟩,
  ⟨0x1C36, "LEPCHA SIGN ", ["RAN;NUKTA"]⟩,
  ⟨0x1C3B, "LEPCHA PUNCTUATION ", ["TA-ROL;NYET THYOOM TA-ROL;CER-WA;TSHOOK CER-WA;TSHOOK"]⟩,
  ⟨0x1C40, "LEPCHA DIGIT ", ["ZERO;ONE;TWO;THREE;FOUR;FIVE;SIX;SEVEN;EIGHT;NINE"]⟩,
  ⟨0x1C4D, "LEPCHA LETTER ", ["TTA;TTHA;DDA"]⟩,
  ⟨0x1C50, "OL CHIKI DIGIT ", ["ZERO;ONE;TWO;THREE;FOUR;FIVE;SIX;SEVEN;EIGHT;NINE"]⟩,
  ⟨0x1C5A, "OL CHIKI LETTER ", [
    "LA;AT;AG;ANG;AL;LAA;AAK;AAJ;AAM;AAW;LI;IS;IH;INY;IR;LU;UC;UD;UNN;UY;LE;EP;EDD;EN;ERR;LO;OTT",
    "OB;OV;OH"]⟩,
  ⟨0x1C78, "OL CHIKI ", [
    "MU TTUDDAG;GAAHLAA TTUDDAAG;MU-GAAHLAA TTUDDAAG;RELAA;PHAARKAA;AHAD;PUNCTUATION MUCAAD",
    "PUNCTUATION DOUBLE MUCAAD"]⟩,
  ⟨0x1C80, "CYRILLIC SMALL LETTER ", [
    "ROUNDED VE;LONG-LEGGED DE;NARROW O;WIDE ES;TALL TE;THREE-LEGGED TE;TALL HARD SIGN;TALL YAT",
    "UNBLENDED UK"]⟩,
  ⟨0x1C90, "GEORGIAN MTAVRULI CAPITAL LETTER ", [
    "AN;BAN;GAN;DON;EN;VIN;ZEN;TAN;IN;KAN;LAS;MAN;NAR;ON;PAR;ZHAR;RAE;SAN;TAR;UN;PHAR;KHAR;GHAN",
    "QAR;SHIN;CHIN;CAN;JIL;CIL;CHAR;XAN;JHAN;HAE;HE;HIE;WE;HAR;HOE;FI;YN;ELIFI;TURNED GAN;AIN"]⟩,
  ⟨0x1CBD, "GEORGIAN MTAVRULI CAPITAL LETTER ", ["AEN;HARD SIGN;LABIAL SIGN"]⟩,
  ⟨0x1CC0, "SUNDANESE PUNCTUATION BINDU ", [
    "SURYA;PANGLONG;PURNAMA;CAKRA;LEU SATANGA;KA SATANGA;DA SATANGA;BA SATANGA"]⟩,
  ⟨0x1CD0, "VEDIC ", [
    "TONE KARSHANA;TONE SHARA;TONE PRENKHA;SIGN NIHSHVASA;SIGN YAJURVEDIC MIDLINE SVARITA"]⟩,
  ⟨0x1CD5, "VEDIC TONE ", [
    "YAJURVEDIC AGGRAVATED INDEPENDENT SVARITA;YAJURVEDIC INDEPENDENT SVARITA",
    "YAJURVEDIC KATHAKA INDEPENDENT SVARITA;CANDRA BELOW",
    "YAJURVEDIC KATHAKA INDEPENDENT SVARITA SCHROEDER;DOUBLE SVARITA;TRIPLE SVARITA",
    "KATHAKA ANUDATTA;DOT BELOW;TWO DOTS BELOW;THREE DOTS BELOW",
    "RIGVEDIC KASHMIRI INDEPENDENT SVARITA;ATHARVAVEDIC INDEPENDENT SVARITA"]⟩,
  ⟨0x1CE2, "VEDIC SIGN ", [
    "VISARGA SVARITA;VISARGA UDATTA;REVERSED VISARGA UDATTA;VISARGA ANUDATTA",
    "REVERSED VISARGA ANUDATTA;VISARGA UDATTA WITH TAIL;VISARGA ANUDATTA WITH TAIL",
    "ANUSVARA ANTARGOMUKHA;ANUSVARA BAHIRGOMUKHA;ANUSVARA VAMAGOMUKHA",
    "ANUSVARA VAMAGOMUKHA WITH TAIL;TIRYAK;HEXIFORM LONG ANUSVARA;LONG ANUSVARA",
    "RTHANG LONG ANUSVARA;ANUSVARA UBHAYATO MUKHA;ARDHAVISARGA;ROTATED ARDHAVISARGA"]⟩,
  ⟨0x1CF4, "VEDIC ", [
    "TONE CANDRA ABOVE;SIGN JIHVAMULIYA;SIGN UPADHMANIYA;SIGN ATIKRAMA;TONE RING ABOVE",
    "TONE DOUBLE RING ABOVE;SIGN DOUBLE ANUSVARA ANTARGOMUKHA"]⟩]

end BlockSync.Text.CharacterName
