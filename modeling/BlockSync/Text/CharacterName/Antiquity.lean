import BlockSync.Text.CharacterName.Block

namespace BlockSync.Text.CharacterName

/-!
# Names: Antiquity

Characters from 10A00 to 111FF:
ancient and medieval scripts of Asia.
-/

/-- The names from 10A00 to 111FF. -/
def antiquity : List Block := [
  ⟨0x10A00, "KHAROSHTHI ", ["LETTER A;VOWEL SIGN I;VOWEL SIGN U;VOWEL SIGN VOCALIC R"]⟩,
  ⟨0x10A05, "KHAROSHTHI VOWEL SIGN ", ["E;O"]⟩,
  ⟨0x10A0C, "KHAROSHTHI ", [
    "VOWEL LENGTH MARK;SIGN DOUBLE RING BELOW;SIGN ANUSVARA;SIGN VISARGA;LETTER KA;LETTER KHA",
    "LETTER GA;LETTER GHA"]⟩,
  ⟨0x10A15, "KHAROSHTHI LETTER ", ["CA;CHA;JA"]⟩,
  ⟨0x10A19, "KHAROSHTHI LETTER ", [
    "NYA;TTA;TTHA;DDA;DDHA;NNA;TA;THA;DA;DHA;NA;PA;PHA;BA;BHA;MA;YA;RA;LA;VA;SHA;SSA;SA;ZA;HA",
    "KKA;TTTHA;TTTA;VHA"]⟩,
  ⟨0x10A38, "KHAROSHTHI SIGN ", ["BAR ABOVE;CAUDA;DOT BELOW"]⟩,
  ⟨0x10A3F, "KHAROSHTHI ", [
    "VIRAMA;DIGIT ONE;DIGIT TWO;DIGIT THREE;DIGIT FOUR;NUMBER TEN;NUMBER TWENTY",
    "NUMBER ONE HUNDRED;NUMBER ONE THOUSAND;FRACTION ONE HALF"]⟩,
  ⟨0x10A50, "KHAROSHTHI PUNCTUATION ", [
    "DOT;SMALL CIRCLE;CIRCLE;CRESCENT BAR;MANGALAM;LOTUS;DANDA;DOUBLE DANDA;LINES"]⟩,
  ⟨0x10A60, "OLD SOUTH ARABIAN LETTER ", [
    "HE;LAMEDH;HETH;MEM;QOPH;WAW;SHIN;RESH;BETH;TAW;SAT;KAPH;NUN;KHETH;SADHE;SAMEKH;FE;ALEF;AYN",
    "DHADHE;GIMEL;DALETH;GHAYN;TETH;ZAYN;DHALETH;YODH;THAW;THETH"]⟩,
  ⟨0x10A7D, "OLD SOUTH ARABIAN ", ["NUMBER ONE;NUMBER FIFTY;NUMERIC INDICATOR"]⟩,
  ⟨0x10A80, "OLD NORTH ARABIAN LETTER ", [
    "HEH;LAM;HAH;MEEM;QAF;WAW;ES-2;REH;BEH;TEH;ES-1;KAF;NOON;KHAH;SAD;ES-3;FEH;ALEF;AIN;DAD;GEEM",
    "DAL;GHAIN;TAH;ZAIN;THAL;YEH;THEH;ZAH"]⟩,
  ⟨0x10A9D, "OLD NORTH ARABIAN NUMBER ", ["ONE;TEN;TWENTY"]⟩,
  ⟨0x10AC0, "MANICHAEAN LETTER ", ["ALEPH;BETH;BHETH;GIMEL;GHIMEL;DALETH;HE;WAW"]⟩,
  ⟨0x10AC8, "", ["MANICHAEAN SIGN UD"]⟩,
  ⟨0x10AC9, "MANICHAEAN LETTER ", [
    "ZAYIN;ZHAYIN;JAYIN;JHAYIN;HETH;TETH;YODH;KAPH;XAPH;KHAPH;LAMEDH;DHAMEDH;THAMEDH;MEM;NUN",
    "SAMEKH;AYIN;AAYIN;PE;FE;SADHE;QOPH;XOPH;QHOPH;RESH;SHIN;SSHIN;TAW"]⟩,
  ⟨0x10AE5, "MANICHAEAN ABBREVIATION MARK ", ["ABOVE;BELOW"]⟩,
  ⟨0x10AEB, "MANICHAEAN NUMBER ", ["ONE;FIVE;TEN;TWENTY;ONE HUNDRED"]⟩,
  ⟨0x10AF0, "MANICHAEAN PUNCTUATION ", [
    "STAR;FLEURON;DOUBLE DOT WITHIN DOT;DOT WITHIN DOT;DOT;TWO DOTS;LINE FILLER"]⟩,
  ⟨0x10B00, "AVESTAN LETTER ", [
    "A;AA;AO;AAO;AN;AAN;AE;AEE;E;EE;O;OO;I;II;U;UU;KE;XE;XYE;XVE;GE;GGE;GHE;CE;JE;TE;THE;DE;DHE",
    "TTE;PE;FE;BE;BHE;NGE;NGYE;NGVE;NE;NYE;NNE;ME;HME;YYE;YE;VE;RE;LE;SE;ZE;SHE;ZHE;SHYE;SSHE;HE"]⟩,
  ⟨0x10B39, "", [
    "AVESTAN ABBREVIATION MARK;TINY TWO DOTS OVER ONE DOT PUNCTUATION",
    "SMALL TWO DOTS OVER ONE DOT PUNCTUATION"]⟩,
  ⟨0x10B3C, "LARGE ", [
    "TWO DOTS OVER ONE DOT PUNCTUATION;ONE DOT OVER TWO DOTS PUNCTUATION",
    "TWO RINGS OVER ONE RING PUNCTUATION;ONE RING OVER TWO RINGS PUNCTUATION"]⟩,
  ⟨0x10B40, "INSCRIPTIONAL PARTHIAN LETTER ", [
    "ALEPH;BETH;GIMEL;DALETH;HE;WAW;ZAYIN;HETH;TETH;YODH;KAPH;LAMEDH;MEM;NUN;SAMEKH;AYIN;PE",
    "SADHE;QOPH;RESH;SHIN;TAW"]⟩,
  ⟨0x10B58, "INSCRIPTIONAL PARTHIAN NUMBER ", [
    "ONE;TWO;THREE;FOUR;TEN;TWENTY;ONE HUNDRED;ONE THOUSAND"]⟩,
  ⟨0x10B60, "INSCRIPTIONAL PAHLAVI LETTER ", [
    "ALEPH;BETH;GIMEL;DALETH;HE;WAW-AYIN-RESH;ZAYIN;HETH;TETH;YODH;KAPH;LAMEDH;MEM-QOPH;NUN",
    "SAMEKH;PE;SADHE;SHIN;TAW"]⟩,
  ⟨0x10B78, "INSCRIPTIONAL PAHLAVI NUMBER ", [
    "ONE;TWO;THREE;FOUR;TEN;TWENTY;ONE HUNDRED;ONE THOUSAND"]⟩,
  ⟨0x10B80, "PSALTER PAHLAVI LETTER ", [
    "ALEPH;BETH;GIMEL;DALETH;HE;WAW-AYIN-RESH;ZAYIN;HETH;YODH;KAPH;LAMEDH;MEM-QOPH;NUN;SAMEKH;PE",
    "SADHE;SHIN;TAW"]⟩,
  ⟨0x10B99, "PSALTER PAHLAVI ", [
    "SECTION MARK;TURNED SECTION MARK;FOUR DOTS WITH CROSS;FOUR DOTS WITH DOT"]⟩,
  ⟨0x10BA9, "PSALTER PAHLAVI NUMBER ", ["ONE;TWO;THREE;FOUR;TEN;TWENTY;ONE HUNDRED"]⟩,
  ⟨0x10C00, "OLD TURKIC LETTER ", [
    "ORKHON A;YENISEI A;YENISEI AE;ORKHON I;YENISEI I;YENISEI E;ORKHON O;ORKHON OE;YENISEI OE",
    "ORKHON AB;YENISEI AB;ORKHON AEB;YENISEI AEB;ORKHON AG;YENISEI AG;ORKHON AEG;YENISEI AEG",
    "ORKHON AD;YENISEI AD;ORKHON AED;ORKHON EZ;YENISEI EZ;ORKHON AY;YENISEI AY;ORKHON AEY",
    "YENISEI AEY;ORKHON AEK;YENISEI AEK;ORKHON OEK;YENISEI OEK;ORKHON AL;YENISEI AL;ORKHON AEL",
    "ORKHON ELT;ORKHON EM;ORKHON AN;ORKHON AEN;YENISEI AEN;ORKHON ENT;YENISEI ENT;ORKHON ENC",
    "YENISEI ENC;ORKHON ENY;YENISEI ENY;YENISEI ANG;ORKHON ENG;YENISEI AENG;ORKHON EP;ORKHON OP",
    "ORKHON IC;ORKHON EC;YENISEI EC;ORKHON AQ;YENISEI AQ;ORKHON IQ;YENISEI IQ;ORKHON OQ",
    "YENISEI OQ;ORKHON AR;YENISEI AR;ORKHON AER;ORKHON AS;ORKHON AES;ORKHON ASH;YENISEI ASH",
    "ORKHON ESH;YENISEI ESH;ORKHON AT;YENISEI AT;ORKHON AET;YENISEI AET;ORKHON OT;ORKHON BASH"]⟩,
  ⟨0x10C80, "OLD HUNGARIAN CAPITAL LETTER ", [
    "A;AA;EB;AMB;EC;ENC;ECS;ED;AND;E;CLOSE E;EE;EF;EG;EGY;EH;I;II;EJ;EK;AK;UNK;EL;ELY;EM;EN;ENY",
    "O;OO;NIKOLSBURG OE;RUDIMENTA OE;OEE;EP;EMP;ER;SHORT ER;ES;ESZ;ET;ENT;ETY;ECH;U;UU",
    "NIKOLSBURG UE;RUDIMENTA UE;EV;EZ;EZS;ENT-SHAPED SIGN;US"]⟩,
  ⟨0x10CC0, "OLD HUNGARIAN SMALL LETTER ", [
    "A;AA;EB;AMB;EC;ENC;ECS;ED;AND;E;CLOSE E;EE;EF;EG;EGY;EH;I;II;EJ;EK;AK;UNK;EL;ELY;EM;EN;ENY",
    "O;OO;NIKOLSBURG OE;RUDIMENTA OE;OEE;EP;EMP;ER;SHORT ER;ES;ESZ;ET;ENT;ETY;ECH;U;UU",
    "NIKOLSBURG UE;RUDIMENTA UE;EV;EZ;EZS;ENT-SHAPED SIGN;US"]⟩,
  ⟨0x10CFA, "OLD HUNGARIAN NUMBER ", ["ONE;FIVE;TEN;FIFTY;ONE HUNDRED;ONE THOUSAND"]⟩,
  ⟨0x10D00, "HANIFI ROHINGYA LETTER ", [
    "A;BA;PA;TA;TTA;JA;CA;HA;KHA;FA;DA;DDA;RA;RRA;ZA;SA;SHA;KA;GA;LA;MA;NA;WA;KINNA WA;YA",
    "KINNA YA;NGA;NYA;VA"]⟩,
  ⟨0x10D1D, "HANIFI ROHINGYA ", [
    "VOWEL A;VOWEL I;VOWEL U;VOWEL E;VOWEL O;MARK SAKIN;MARK NA KHONNA;SIGN HARBAHAY;SIGN TAHALA",
    "SIGN TANA;SIGN TASSI"]⟩,
  ⟨0x10D30, "HANIFI ROHINGYA DIGIT ", ["ZERO;ONE;TWO;THREE;FOUR;FIVE;SIX;SEVEN;EIGHT;NINE"]⟩,
  ⟨0x10E60, "RUMI DIGIT ", ["ONE;TWO;THREE;FOUR;FIVE;SIX;SEVEN;EIGHT;NINE"]⟩,
  ⟨0x10E69, "RUMI NUMBER ", [
    "TEN;TWENTY;THIRTY;FORTY;FIFTY;SIXTY;SEVENTY;EIGHTY;NINETY;ONE HUNDRED;TWO HUNDRED",
    "THREE HUNDRED;FOUR HUNDRED;FIVE HUNDRED;SIX HUNDRED;SEVEN HUNDRED;EIGHT HUNDRED",
    "NINE HUNDRED"]⟩,
  ⟨0x10E7B, "RUMI FRACTION ", ["ONE HALF;ONE QUARTER;ONE THIRD;TWO THIRDS"]⟩,
  ⟨0x10E80, "YEZIDI LETTER ", [
    "ELIF;BE;PE;PHE;THE;SE;CIM;CHIM;CHHIM;HHA;XA;DAL;ZAL;RA;RHA;ZA;JA;SIN;SHIN;SAD;DAD;TA;ZE;EYN",
    "XHEYN;FA;VA;VA ALTERNATE FORM;QAF;KAF;KHAF;GAF;LAM;MIM;NUN;UM;WAW;OW;EW;HAY;YOT;ET"]⟩,
  ⟨0x10EAB, "YEZIDI ", ["COMBINING HAMZA MARK;COMBINING MADDA MARK;HYPHENATION MARK"]⟩,
  ⟨0x10EB0, "YEZIDI LETTER ", ["LAM WITH DOT ABOVE;YOT WITH CIRCUMFLEX ABOVE"]⟩,
  ⟨0x10F00, "OLD SOGDIAN LETTER ", [
    "ALEPH;FINAL ALEPH;BETH;FINAL BETH;GIMEL;HE;FINAL HE;WAW;ZAYIN;HETH;YODH;KAPH;LAMEDH;MEM;NUN",
    "FINAL NUN;FINAL NUN WITH VERTICAL TAIL;SAMEKH;AYIN;ALTERNATE AYIN;PE;SADHE;FINAL SADHE",
    "FINAL SADHE WITH VERTICAL TAIL;RESH-AYIN-DALETH;SHIN;TAW;FINAL TAW",
    "FINAL TAW WITH VERTICAL TAIL"]⟩,
  ⟨0x10F1D, "OLD SOGDIAN NUMBER ", ["ONE;TWO;THREE;FOUR;FIVE;TEN;TWENTY;THIRTY;ONE HUNDRED"]⟩,
  ⟨0x10F26, "OLD SOGDIAN ", ["FRACTION ONE HALF;LIGATURE AYIN-DALETH"]⟩,
  ⟨0x10F30, "SOGDIAN LETTER ", [
    "ALEPH;BETH;GIMEL;HE;WAW;ZAYIN;HETH;YODH;KAPH;LAMEDH;MEM;NUN;SAMEKH;AYIN;PE;SADHE;RESH-AYIN",
    "SHIN;TAW;FETH;LESH"]⟩,
  ⟨0x10F45, "", ["SOGDIAN INDEPENDENT SHIN"]⟩,
  ⟨0x10F46, "SOGDIAN COMBINING ", [
    "DOT BELOW;TWO DOTS BELOW;DOT ABOVE;TWO DOTS ABOVE;CURVE ABOVE;CURVE BELOW;HOOK ABOVE",
    "HOOK BELOW;LONG HOOK BELOW;RESH BELOW;STROKE BELOW"]⟩,
  ⟨0x10F51, "SOGDIAN NUMBER ", ["ONE;TEN;TWENTY;ONE HUNDRED"]⟩,
  ⟨0x10F55, "SOGDIAN PUNCTUATION ", [
    "TWO VERTICAL BARS;TWO VERTICAL BARS WITH DOTS;CIRCLE WITH DOT;TWO CIRCLES WITH DOTS",
    "HALF CIRCLE WITH DOT"]⟩,
  ⟨0x10F70, "OLD UYGHUR LETTER ", [
    "ALEPH;BETH;GIMEL-HETH;WAW;ZAYIN;FINAL HETH;YODH;KAPH;LAMEDH;MEM;NUN;SAMEKH;PE;SADHE;RESH",
    "SHIN;TAW;LESH"]⟩,
  ⟨0x10F82, "OLD UYGHUR COMBINING ", ["DOT ABOVE;DOT BELOW;TWO DOTS ABOVE;TWO DOTS BELOW"]⟩,
  ⟨0x10F86, "OLD UYGHUR PUNCTUATION ", ["BAR;TWO BARS;TWO DOTS;FOUR DOTS"]⟩,
  ⟨0x10FB0, "CHORASMIAN LETTER ", [
    "ALEPH;SMALL ALEPH;BETH;GIMEL;DALETH;HE;WAW;CURLED WAW;ZAYIN;HETH;YODH;KAPH;LAMEDH;MEM;NUN",
    "SAMEKH;AYIN;PE;RESH;SHIN;TAW"]⟩,
  ⟨0x10FC5, "CHORASMIAN NUMBER ", ["ONE;TWO;THREE;FOUR;TEN;TWENTY;ONE HUNDRED"]⟩,
  ⟨0x10FE0, "ELYMAIC LETTER ", [
    "ALEPH;BETH;GIMEL;DALETH;HE;WAW;ZAYIN;HETH;TETH;YODH;KAPH;LAMEDH;MEM;NUN;SAMEKH;AYIN;PE",
    "SADHE;QOPH;RESH;SHIN;TAW"]⟩,
  ⟨0x10FF6, "", ["ELYMAIC LIGATURE ZAYIN-YODH"]⟩,
  ⟨0x11000, "BRAHMI SIGN ", ["CANDRABINDU;ANUSVARA;VISARGA;JIHVAMULIYA;UPADHMANIYA"]⟩,
  ⟨0x11005, "BRAHMI LETTER ", [
    "A;AA;I;II;U;UU;VOCALIC R;VOCALIC RR;VOCALIC L;VOCALIC LL;E;AI;O;AU;KA;KHA;GA;GHA;NGA;CA;CHA",
    "JA;JHA;NYA;TTA;TTHA;DDA;DDHA;NNA;TA;THA;DA;DHA;NA;PA;PHA;BA;BHA;MA;YA;RA;LA;VA;SHA;SSA;SA",
    "HA;LLA;OLD TAMIL LLLA;OLD TAMIL RRA;OLD TAMIL NNNA"]⟩,
  ⟨0x11038, "BRAHMI VOWEL SIGN ", [
    "AA;BHATTIPROLU AA;I;II;U;UU;VOCALIC R;VOCALIC RR;VOCALIC L;VOCALIC LL;E;AI;O;AU"]⟩,
  ⟨0x11046, "BRAHMI ", ["VIRAMA;DANDA;DOUBLE DANDA"]⟩,
  ⟨0x11049, "BRAHMI PUNCTUATION ", ["DOT;DOUBLE DOT;LINE;CRESCENT BAR;LOTUS"]⟩,
  ⟨0x11052, "BRAHMI NUMBER ", [
    "ONE;TWO;THREE;FOUR;FIVE;SIX;SEVEN;EIGHT;NINE;TEN;TWENTY;THIRTY;FORTY;FIFTY;SIXTY;SEVENTY",
    "EIGHTY;NINETY;ONE HUNDRED;ONE THOUSAND"]⟩,
  ⟨0x11066, "BRAHMI DIGIT ", ["ZERO;ONE;TWO;THREE;FOUR;FIVE;SIX;SEVEN;EIGHT;NINE"]⟩,
  ⟨0x11070, "BRAHMI ", [
    "SIGN OLD TAMIL VIRAMA;LETTER OLD TAMIL SHORT E;LETTER OLD TAMIL SHORT O",
    "VOWEL SIGN OLD TAMIL SHORT E;VOWEL SIGN OLD TAMIL SHORT O;LETTER OLD TAMIL LLA"]⟩,
  ⟨0x1107F, "", ["BRAHMI NUMBER JOINER"]⟩,
  ⟨0x11080, "KAITHI SIGN ", ["CANDRABINDU;ANUSVARA;VISARGA"]⟩,
  ⟨0x11083, "KAITHI LETTER ", [
    "A;AA;I;II;U;UU;E;AI;O;AU;KA;KHA;GA;GHA;NGA;CA;CHA;JA;JHA;NYA;TTA;TTHA;DDA;DDDHA;DDHA;RHA",
    "NNA;TA;THA;DA;DHA;NA;PA;PHA;BA;BHA;MA;YA;RA;LA;VA;SHA;SSA;SA;HA"]⟩,
  ⟨0x110B0, "KAITHI VOWEL SIGN ", ["AA;I;II;U;UU;E;AI;O;AU"]⟩,
  ⟨0x110B9, "KAITHI ", [
    "SIGN VIRAMA;SIGN NUKTA;ABBREVIATION SIGN;ENUMERATION SIGN;NUMBER SIGN;SECTION MARK",
    "DOUBLE SECTION MARK;DANDA;DOUBLE DANDA;VOWEL SIGN VOCALIC R"]⟩,
  ⟨0x110CD, "", ["KAITHI NUMBER SIGN ABOVE"]⟩,
  ⟨0x110D0, "SORA SOMPENG LETTER ", [
    "SAH;TAH;BAH;CAH;DAH;GAH;MAH;NGAH;LAH;NAH;VAH;PAH;YAH;RAH;HAH;KAH;JAH;NYAH;AH;EEH;IH;UH;OH",
    "EH;MAE"]⟩,
  ⟨0x110F0, "SORA SOMPENG DIGIT ", ["ZERO;ONE;TWO;THREE;FOUR;FIVE;SIX;SEVEN;EIGHT;NINE"]⟩,
  ⟨0x11100, "CHAKMA SIGN ", ["CANDRABINDU;ANUSVARA;VISARGA"]⟩,
  ⟨0x11103, "CHAKMA LETTER ", [
    "AA;I;U;E;KAA;KHAA;GAA;GHAA;NGAA;CAA;CHAA;JAA;JHAA;NYAA;TTAA;TTHAA;DDAA;DDHAA;NNAA;TAA;THAA",
    "DAA;DHAA;NAA;PAA;PHAA;BAA;BHAA;MAA;YYAA;YAA;RAA;LAA;WAA;SAA;HAA"]⟩,
  ⟨0x11127, "CHAKMA VOWEL SIGN ", ["A;I;II;U;UU;E;AI;O;AU;OI"]⟩,
  ⟨0x11131, "CHAKMA ", ["O MARK;AU MARK;VIRAMA;MAAYYAA"]⟩,
  ⟨0x11136, "CHAKMA DIGIT ", ["ZERO;ONE;TWO;THREE;FOUR;FIVE;SIX;SEVEN;EIGHT;NINE"]⟩,
  ⟨0x11140, "CHAKMA ", [
    "SECTION MARK;DANDA;DOUBLE DANDA;QUESTION MARK;LETTER LHAA;VOWEL SIGN AA;VOWEL SIGN EI",
    "LETTER VAA"]⟩,
  ⟨0x11150, "MAHAJANI LETTER ", [
    "A;I;U;E;O;KA;KHA;GA;GHA;CA;CHA;JA;JHA;NYA;TTA;TTHA;DDA;DDHA;NNA;TA;THA;DA;DHA;NA;PA;PHA;BA",
    "BHA;MA;RA;LA;VA;SA;HA;RRA"]⟩,
  ⟨0x11173, "MAHAJANI ", ["SIGN NUKTA;ABBREVIATION SIGN;SECTION MARK;LIGATURE SHRI"]⟩,
  ⟨0x11180, "SHARADA SIGN ", ["CANDRABINDU;ANUSVARA;VISARGA"]⟩,
  ⟨0x11183, "SHARADA LETTER ", [
    "A;AA;I;II;U;UU;VOCALIC R;VOCALIC RR;VOCALIC L;VOCALIC LL;E;AI;O;AU;KA;KHA;GA;GHA;NGA;CA;CHA",
    "JA;JHA;NYA;TTA;TTHA;DDA;DDHA;NNA;TA;THA;DA;DHA;NA;PA;PHA;BA;BHA;MA;YA;RA;LA;LLA;VA;SHA;SSA",
    "SA;HA"]⟩,
  ⟨0x111B3, "SHARADA VOWEL SIGN ", [
    "AA;I;II;U;UU;VOCALIC R;VOCALIC RR;VOCALIC L;VOCALIC LL;E;AI;O;AU"]⟩,
  ⟨0x111C0, "SHARADA ", [
    "SIGN VIRAMA;SIGN AVAGRAHA;SIGN JIHVAMULIYA;SIGN UPADHMANIYA;OM;DANDA;DOUBLE DANDA",
    "ABBREVIATION SIGN;SEPARATOR;SANDHI MARK;SIGN NUKTA;VOWEL MODIFIER MARK",
    "EXTRA SHORT VOWEL MARK;SUTRA MARK;VOWEL SIGN PRISHTHAMATRA E;SIGN INVERTED CANDRABINDU"]⟩,
  ⟨0x111D0, "SHARADA DIGIT ", ["ZERO;ONE;TWO;THREE;FOUR;FIVE;SIX;SEVEN;EIGHT;NINE"]⟩,
  ⟨0x111DA, "SHARADA ", [
    "EKAM;SIGN SIDDHAM;HEADSTROKE;CONTINUATION SIGN;SECTION MARK-1;SECTION MARK-2"]⟩,
  ⟨0x111E1, "SINHALA ARCHAIC DIGIT ", ["ONE;TWO;THREE;FOUR;FIVE;SIX;SEVEN;EIGHT;NINE"]⟩,
  ⟨0x111EA, "SINHALA ARCHAIC NUMBER ", [
    "TEN;TWENTY;THIRTY;FORTY;FIFTY;SIXTY;SEVENTY;EIGHTY;NINETY;ONE HUNDRED;ONE THOUSAND"]⟩]

end BlockSync.Text.CharacterName
